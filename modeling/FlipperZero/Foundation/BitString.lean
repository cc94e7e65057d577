import Mathlib.Algebra.Ring.Nat
import Mathlib.Tactic.Common

/-!
# Strings of bits

A string of bits is a function from positions. `packed` shifts the first bits of a string into a
word, the first one highest, and `parity` says whether a word has an odd number of ones.

From a string in blocks of `n` bits every `n`-th one may be left out: `kept n c` of the first `c`
bits remain, and the `k`-th that remains stood at `keptIndex n k`.
-/

namespace Foundation

/-! ### Words -/

/-- The sum of the first bits. -/
def xorBelow (f : Nat → Bool) : Nat → Bool
  | 0     => false
  | n + 1 => xorBelow f n ^^ f n

lemma xorBelow_congr {f g : Nat → Bool} {n : Nat} (h : ∀ i < n, f i = g i) :
    xorBelow f n = xorBelow g n := by
  induction n with
  | zero => rfl
  | succ n ih =>
    rw [xorBelow, xorBelow, ih fun i hi => h i (Nat.lt_succ_of_lt hi), h n (Nat.lt_succ_self n)]

lemma xorBelow_succ (f : Nat → Bool) (n : Nat) :
    xorBelow f (n + 1) = (f 0 ^^ xorBelow (fun i => f (i + 1)) n) := by
  induction n with
  | zero => simp [xorBelow]
  | succ n ih => rw [xorBelow, ih, xorBelow, Bool.xor_assoc]

lemma sum_toNat_mod_two (f : Nat → Bool) (n : Nat) :
    ((List.range n).map fun i => (f i).toNat).sum % 2 = (xorBelow f n).toNat := by
  induction n with
  | zero => rfl
  | succ n ih =>
    rw [List.range_succ, List.map_append, List.sum_append, xorBelow, List.map_singleton,
      List.sum_singleton, Nat.add_mod, ih]
    cases xorBelow f n <;> cases f n <;> rfl

/-- Whether a word has an odd number of ones. -/
def parity {w : Nat} (x : BitVec w) : Bool := xorBelow x.getLsbD w

/-- The word with one bit more at its lower end. -/
def shiftIn {w : Nat} (x : BitVec w) (b : Bool) : BitVec w :=
  x <<< 1 ||| (BitVec.ofBool b).setWidth w

/-- The first bits of a string in a word. -/
def packed (w : Nat) (f : Nat → Bool) : Nat → BitVec w
  | 0     => 0
  | n + 1 => shiftIn (packed w f n) (f n)

variable {w : Nat}

lemma getLsbD_shiftIn {i : Nat} (x : BitVec w) (b : Bool) (hi : i < w) :
    (shiftIn x b).getLsbD i = if i = 0 then b else x.getLsbD (i - 1) := by
  rw [shiftIn, BitVec.getLsbD_or, BitVec.getLsbD_shiftLeft, BitVec.getLsbD_setWidth,
    BitVec.getLsbD_ofBool]
  cases i with
  | zero => simp [hi]
  | succ i => simp [hi]

lemma getLsbD_packed (f : Nat → Bool) {n i : Nat} (hi : i < w) :
    (packed w f n).getLsbD i = (decide (i < n) && f (n - 1 - i)) := by
  induction n generalizing i with
  | zero => simp [packed]
  | succ n ih =>
    rw [packed, getLsbD_shiftIn _ _ hi]
    cases i with
    | zero => simp
    | succ i =>
      have hsub : n - 1 - i = n + 1 - 1 - (i + 1) := by omega
      rw [if_neg (Nat.succ_ne_zero i), Nat.add_sub_cancel, ih (Nat.lt_of_succ_lt hi), hsub]
      simp

lemma packed_congr {f g : Nat → Bool} {n : Nat} (h : ∀ i < n, f i = g i) :
    packed w f n = packed w g n := by
  induction n with
  | zero => rfl
  | succ n ih =>
    rw [packed, packed, ih fun i hi => h i (Nat.lt_succ_of_lt hi), h n (Nat.lt_succ_self n)]

lemma packed_add (f : Nat → Bool) (a b : Nat) :
    packed w f (a + b) = packed w f a <<< b ||| packed w (fun k => f (a + k)) b := by
  induction b with
  | zero => simp [packed]
  | succ b ih =>
    rw [← Nat.add_assoc, packed, packed, ih, shiftIn, shiftIn, BitVec.shiftLeft_or_distrib,
      BitVec.shiftLeft_add, BitVec.or_assoc]

lemma parity_shiftIn (x : BitVec (w + 1)) (b : Bool) (hx : x.getLsbD w = false) :
    parity (shiftIn x b) = (b ^^ parity x) := by
  have hlow := getLsbD_shiftIn x b (Nat.succ_pos w)
  rw [if_pos rfl] at hlow
  have hrest : xorBelow (fun i => (shiftIn x b).getLsbD (i + 1)) w = xorBelow x.getLsbD w := by
    apply xorBelow_congr
    intro i hi
    rw [getLsbD_shiftIn x b (Nat.succ_lt_succ hi), if_neg (Nat.succ_ne_zero i), Nat.succ_sub_one]
  rw [parity, xorBelow_succ, hlow, hrest, parity, xorBelow, hx, Bool.xor_false]

/-- The parity of a word is the sum of the bits of its string. -/
lemma parity_packed_succ (f : Nat → Bool) {n : Nat} (hn : n ≤ w) :
    parity (packed (w + 1) f (n + 1)) = (f n ^^ parity (packed (w + 1) f n)) := by
  rw [packed]
  apply parity_shiftIn
  rw [getLsbD_packed f (Nat.lt_succ_self w)]
  simp [Nat.not_lt.mpr hn]

/-! ### Blocks -/

/-- The number of bits that remain of the first `c`. -/
def kept (n c : Nat) : Nat := c - c / n

/-- Where the bit stood that remains as the `k`-th. -/
def keptIndex (n k : Nat) : Nat := k + k / (n - 1)

variable {n c k : Nat}

@[simp] lemma kept_zero (n : Nat) : kept n 0 = 0 := by simp [kept]

lemma succ_div_of_mod_ne (h : (c + 1) % n ≠ 0) : (c + 1) / n = c / n := by
  rw [Nat.succ_div, if_neg fun hdvd => h (Nat.mod_eq_zero_of_dvd hdvd), Nat.add_zero]

lemma kept_succ_of_mod_ne (h : (c + 1) % n ≠ 0) : kept n (c + 1) = kept n c + 1 := by
  have hle := Nat.div_le_self c n
  rw [kept, succ_div_of_mod_ne h, kept]
  omega

lemma kept_succ_of_mod_eq (h : (c + 1) % n = 0) : kept n (c + 1) = kept n c := by
  rw [kept, Nat.succ_div, if_pos (Nat.dvd_of_mod_eq_zero h), kept, Nat.add_sub_add_right]

lemma keptIndex_eq {m q r : Nat} (hr : r < m) : keptIndex (m + 1) (m * q + r) = (m + 1) * q + r := by
  rw [keptIndex, Nat.add_sub_cancel, Nat.mul_add_div (Nat.zero_lt_of_lt hr), Nat.div_eq_of_lt hr,
    Nat.add_zero, Nat.succ_mul]
  omega

lemma keptIndex_kept (hn : 2 ≤ n) (h : (c + 1) % n ≠ 0) : keptIndex n (kept n c) = c := by
  obtain ⟨m, rfl⟩ : ∃ m, n = m + 1 := ⟨n - 1, by omega⟩
  have hrest : c % (m + 1) < m := by
    have hlt : c % (m + 1) < m + 1 := Nat.mod_lt c (Nat.succ_pos m)
    have hne : c % (m + 1) ≠ m := by
      intro heq
      rw [Nat.add_mod, heq, Nat.mod_eq_of_lt (by omega : 1 < m + 1), Nat.mod_self] at h
      exact h rfl
    omega
  have hc : (m + 1) * (c / (m + 1)) + c % (m + 1) = c := Nat.div_add_mod c (m + 1)
  have hkept : kept (m + 1) c = m * (c / (m + 1)) + c % (m + 1) := by
    rw [Nat.succ_mul] at hc
    rw [kept]
    omega
  rw [hkept, keptIndex_eq hrest, hc]

lemma kept_mul (m q : Nat) : kept (m + 1) (q * (m + 1)) = q * m := by
  rw [kept, Nat.mul_div_cancel q (Nat.succ_pos m), Nat.mul_succ, Nat.add_sub_cancel]

lemma kept_le_succ (n c : Nat) : kept n c ≤ kept n (c + 1) := by
  by_cases h : (c + 1) % n = 0
  · exact Nat.le_of_eq (kept_succ_of_mod_eq h).symm
  · rw [kept_succ_of_mod_ne h]
    exact Nat.le_succ _

lemma kept_mono {c d : Nat} (h : c ≤ d) : kept n c ≤ kept n d := by
  induction h with
  | refl => exact Nat.le_refl _
  | step _ ih => exact Nat.le_trans ih (kept_le_succ n _)

lemma kept_lt_add_two (hn : 2 ≤ n) (c : Nat) : kept n c < kept n (c + 2) := by
  by_cases hfirst : (c + 1) % n = 0
  · have hsecond : (c + 1 + 1) % n ≠ 0 := by
      rw [Nat.add_mod, hfirst, Nat.zero_add, Nat.mod_mod, Nat.mod_eq_of_lt hn]
      exact Nat.one_ne_zero
    rw [kept_succ_of_mod_ne hsecond, kept_succ_of_mod_eq hfirst]
    exact Nat.lt_succ_self _
  · calc kept n c < kept n (c + 1) := by
          rw [kept_succ_of_mod_ne hfirst]
          exact Nat.lt_succ_self _
      _ ≤ kept n (c + 2) := kept_le_succ n (c + 1)

lemma kept_le (n c : Nat) : kept n c ≤ c := Nat.sub_le _ _

end Foundation
