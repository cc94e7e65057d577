import Mathlib.Tactic.Common
import Mathlib.Data.Nat.Bitwise

/-!
# Masks, shifts and words of bytes

Bit packing read as arithmetic: a mask of low bits is a remainder, a shift a product or a
quotient, and a disjunction of disjoint fields a sum. Words are stored in little-endian order
in an array of bytes, which is a function from indices.
-/

namespace Foundation

/-- The mask of the low `n` bits. -/
def mask (n : Nat) : Nat := 2 ^ n - 1

lemma and_mask (x n : Nat) : x &&& mask n = x % 2 ^ n := Nat.and_two_pow_sub_one_eq_mod x n

lemma mask_lt (n : Nat) : mask n < 2 ^ n := Nat.sub_lt (Nat.two_pow_pos n) Nat.one_pos

/-- A field in the middle of a word, masked before or after the shift. -/
lemma and_mask_shiftLeft_shiftRight (x n k : Nat) :
    (x &&& mask n <<< k) >>> k = x / 2 ^ k % 2 ^ n := by
  rw [Nat.shiftRight_and_distrib, Nat.shiftLeft_shiftRight, and_mask, Nat.shiftRight_eq_div_pow]

lemma or_shiftLeft {a k : Nat} (ha : a < 2 ^ k) (b : Nat) : a ||| b <<< k = a + b * 2 ^ k := by
  rw [Nat.or_comm, ← Nat.shiftLeft_add_eq_or_of_lt ha, Nat.shiftLeft_eq, Nat.add_comm]

lemma testBit_or_shiftLeft_of_lt {k i : Nat} (hi : i < k) (a b : Nat) :
    (a ||| b <<< k).testBit i = a.testBit i := by
  rw [Nat.testBit_or, Nat.testBit_shiftLeft, decide_eq_false (Nat.not_le.mpr hi), Bool.false_and,
    Bool.or_false]

lemma testBit_or_shiftLeft_add {a k : Nat} (ha : a < 2 ^ k) (b i : Nat) :
    (a ||| b <<< k).testBit (k + i) = b.testBit i := by
  have hlow : a.testBit (k + i) = false :=
    Nat.testBit_lt_two_pow (Nat.lt_of_lt_of_le ha
      (Nat.pow_le_pow_right (by decide) (Nat.le_add_right k i)))
  rw [Nat.testBit_or, Nat.testBit_shiftLeft, hlow, Bool.false_or,
    decide_eq_true (Nat.le_add_right k i), Bool.true_and, Nat.add_sub_cancel_left]

/-- The complement of the low `n` bits, without the bits above. -/
def complement (n x : Nat) : Nat := mask n - x % 2 ^ n

lemma complement_lt (n x : Nat) : complement n x < 2 ^ n :=
  Nat.lt_of_le_of_lt (Nat.sub_le _ _) (mask_lt n)

lemma complement_complement (n x : Nat) : complement n (complement n x) = x % 2 ^ n := by
  have hx := Nat.mod_lt x (Nat.two_pow_pos n)
  have hle : x % 2 ^ n ≤ mask n := Nat.le_sub_one_of_lt hx
  rw [complement, Nat.mod_eq_of_lt (complement_lt n x), complement, Nat.sub_sub_self hle]

lemma testBit_complement {n i : Nat} (hi : i < n) (x : Nat) :
    (complement n x).testBit i = !x.testBit i := by
  have hx := Nat.mod_lt x (Nat.two_pow_pos n)
  rw [complement, mask, Nat.sub_sub, Nat.add_comm 1, Nat.testBit_two_pow_sub_succ hx,
    Nat.testBit_mod_two_pow]
  simp only [hi, decide_true, Bool.true_and]

lemma mod_two_pow_or_bit (x s : Nat) :
    (if x.testBit s then x % 2 ^ s ||| 1 <<< s else x % 2 ^ s) = x % 2 ^ (s + 1) := by
  have hlt := Nat.mod_lt x (Nat.two_pow_pos s)
  have hsucc : x % 2 ^ (s + 1) = x % 2 ^ s + 2 ^ s * (x.testBit s).toNat := by
    rw [Nat.mod_pow_succ, Nat.toNat_testBit]
  rw [hsucc]
  cases x.testBit s with
  | true => rw [if_pos rfl, or_shiftLeft hlt, Bool.toNat_true, Nat.mul_one, Nat.one_mul]
  | false => simp

lemma and_one_shiftLeft_bne_zero (x s : Nat) : (x &&& 1 <<< s != 0) = x.testBit s := by
  rw [Nat.one_shiftLeft, Nat.and_two_pow]
  cases x.testBit s <;> simp

/-! ### Words -/

/-- Store a word of `n` bytes at an index. -/
def storeWord (n : Nat) (data : Nat → Nat) (offset w : Nat) : Nat → Nat := fun i =>
  if offset ≤ i ∧ i < offset + n then w >>> (8 * (i - offset)) &&& mask 8 else data i

/-- Load a word of `n` bytes at an index. -/
def loadWord : Nat → (Nat → Nat) → Nat → Nat
  | 0, _, _          => 0
  | n + 1, data, idx => data idx ||| loadWord n data (idx + 1) <<< 8

lemma loadWord_mod_eq_zero {k : Nat} (n : Nat) {data : Nat → Nat} {idx : Nat}
    (h : ∀ i < k, data (idx + i) = 0) : loadWord n data idx % 2 ^ (8 * k) = 0 := by
  induction k generalizing n idx with
  | zero => exact Nat.mod_one _
  | succ k ih =>
    cases n with
    | zero => exact Nat.zero_mod _
    | succ n =>
      have hrest : loadWord n data (idx + 1) % 2 ^ (8 * k) = 0 := by
        apply ih
        intro i hi
        rw [Nat.add_assoc, Nat.add_comm 1]
        exact h (i + 1) (Nat.succ_lt_succ hi)
      have hzero : data idx = 0 := h 0 (Nat.succ_pos k)
      have hpow : 2 ^ (8 * (k + 1)) = 2 ^ (8 * k) * 2 ^ 8 := Nat.pow_add 2 (8 * k) 8
      rw [loadWord, hzero, Nat.zero_or, Nat.shiftLeft_eq, hpow, Nat.mul_mod_mul_right, hrest,
        Nat.zero_mul]

lemma storeWord_of_lt {n offset i : Nat} (hi : i < offset) (data : Nat → Nat) (w : Nat) :
    storeWord n data offset w i = data i :=
  if_neg fun h => Nat.not_le.mpr hi h.1

lemma storeWord_byte {n offset j : Nat} (hj : j < n) (data : Nat → Nat) (w : Nat) :
    storeWord n data offset w (offset + j) = w / 2 ^ (8 * j) % 256 := by
  have hin : offset ≤ offset + j ∧ offset + j < offset + n :=
    ⟨Nat.le_add_right _ _, Nat.add_lt_add_left hj _⟩
  rw [storeWord, if_pos hin, Nat.add_sub_cancel_left, and_mask, Nat.shiftRight_eq_div_pow]
  rfl

/-- A bit of a loaded word is a bit of one of its bytes, when no byte below it carries more than
eight bits. -/
lemma testBit_loadWord {n i offset : Nat} {data : Nat → Nat} (hi : i < 8 * n)
    (hdata : ∀ j < i / 8, data (offset + j) < 256) :
    (loadWord n data offset).testBit i = (data (offset + i / 8)).testBit (i % 8) := by
  induction n generalizing i offset with
  | zero => exact absurd hi (Nat.not_lt_zero _)
  | succ n ih =>
    rw [loadWord, Nat.testBit_or, Nat.testBit_shiftLeft]
    rcases Nat.lt_or_ge i 8 with hlt | hge
    · rw [Nat.div_eq_of_lt hlt, Nat.mod_eq_of_lt hlt, Nat.add_zero]
      simp [Nat.not_le.mpr hlt]
    · have hbyte : (data offset).testBit i = false := by
        have h256 : data offset < 256 := hdata 0 (by omega)
        exact Nat.testBit_lt_two_pow (Nat.lt_of_lt_of_le h256
          (Nat.pow_le_pow_right (by decide) hge : 2 ^ 8 ≤ 2 ^ i))
      have hidx : offset + 1 + (i - 8) / 8 = offset + i / 8 := by omega
      have hrest := @ih (i - 8) (offset + 1) (by omega)
        fun j hj => by
          rw [Nat.add_right_comm, Nat.add_assoc]
          exact hdata (j + 1) (by omega)
      rw [hbyte, Bool.false_or, decide_eq_true hge, Bool.true_and, hrest, hidx,
        ← Nat.mod_eq_sub_mod hge]

/-- A field of a word depends on the bits below its end only. -/
lemma shiftRight_and_mask_congr {x y a b : Nat} (h : x % 2 ^ (a + b) = y % 2 ^ (a + b)) :
    x >>> a &&& mask b = y >>> a &&& mask b := by
  apply Nat.eq_of_testBit_eq
  intro i
  rw [and_mask, and_mask, Nat.testBit_mod_two_pow, Nat.testBit_mod_two_pow, Nat.testBit_shiftRight,
    Nat.testBit_shiftRight]
  by_cases hi : i < b
  · have hbit := congrArg (fun z => z.testBit (a + i)) h
    simp only [Nat.testBit_mod_two_pow, Nat.add_lt_add_left hi a, decide_true, Bool.true_and]
      at hbit
    rw [hbit]
  · simp [hi]

end Foundation
