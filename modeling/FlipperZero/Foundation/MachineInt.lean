import Mathlib.Tactic.Common
import Mathlib.Data.Int.Basic

/-!
# Casts to 32-bit integers

The value of an integer expression after a C cast to `int32_t` or `uint32_t` (which is also
`size_t` on a 32-bit target). Both depend on the expression modulo `2 ^ 32` only.
-/

namespace Foundation

/-- The cast `(uint32_t)n`. -/
def asUInt32 (n : Int) : Nat := (n % 4294967296).toNat

/-- The cast `(int32_t)n`. -/
def asInt32 (n : Int) : Int :=
  if n % 4294967296 < 2147483648 then n % 4294967296 else n % 4294967296 - 4294967296

lemma asUInt32_lt (n : Int) : asUInt32 n < 4294967296 := by
  unfold asUInt32; omega

lemma asUInt32_of_lt {n : Nat} (h : n < 4294967296) : asUInt32 n = n := by
  unfold asUInt32; omega

lemma asUInt32_eq {n : Int} {m : Nat} (h : n = m) (hm : m < 4294967296) : asUInt32 n = m := by
  rw [h, asUInt32_of_lt hm]

lemma asInt32_of_bounds {n : Int} (hl : -2147483648 ≤ n) (hu : n < 2147483648) :
    asInt32 n = n := by
  unfold asInt32; split_ifs <;> omega

lemma asUInt32_congr {m n : Int} (h : (m - n) % 4294967296 = 0) : asUInt32 m = asUInt32 n := by
  unfold asUInt32; omega

lemma asInt32_nonneg_iff {n : Int} : 0 ≤ asInt32 n ↔ n % 4294967296 < 2147483648 := by
  unfold asInt32; split_ifs <;> omega

lemma asInt32_pos_iff {n : Int} :
    0 < asInt32 n ↔ n % 4294967296 ≠ 0 ∧ n % 4294967296 < 2147483648 := by
  unfold asInt32; split_ifs <;> omega

lemma int32_bounds (n : Int32) : -2147483648 ≤ n.toInt ∧ n.toInt < 2147483648 :=
  ⟨n.le_toInt, n.toInt_lt⟩

end Foundation
