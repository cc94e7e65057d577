import FlipperZero.Foundation.Bits
import FlipperZero.Foundation.MachineInt
import Mathlib.Data.List.GetD

/-!
# Numbers of variable length

`varint.c` writes seven bits of a number in each byte, the lowest first, and marks every byte but
the last with its highest bit. A signed number is folded into an unsigned one first: its sign is
the lowest bit. `varint_pair.c` writes two numbers one after the other.
-/

namespace FlipperZero

open Foundation

/-! ### Writing -/

lemma shiftRight_seven_lt {value : Nat} (h : 0x80 ≤ value) : value >>> 7 < value := by
  rw [Nat.shiftRight_eq_div_pow]
  exact Nat.div_lt_self (by omega) (by decide)

/-- `varint_uint32_pack`: the bytes written. -/
def varintUint32Pack (value : Nat) : List UInt8 :=
  if 0x80 ≤ value then (value ||| 0x80).toUInt8 :: varintUint32Pack (value >>> 7)
  else [value.toUInt8]
termination_by value
decreasing_by exact shiftRight_seven_lt ‹_›

def varintUint32Length (value : Nat) : Nat :=
  if 0x80 ≤ value then varintUint32Length (value >>> 7) + 1 else 1
termination_by value
decreasing_by exact shiftRight_seven_lt ‹_›

/-- An `int32_t` folded into a `uint32_t`. -/
def varintFold (value : Int) : Nat :=
  if 0 ≤ value then asUInt32 (value * 2) else asUInt32 (value * -2 - 1)

/-- `varint_int32_pack`: the bytes written. -/
def varintInt32Pack (value : Int) : List UInt8 := varintUint32Pack (varintFold value)

def varintInt32Length (value : Int) : Nat := varintUint32Length (varintFold value)

/-! ### Reading -/

/-- The loop of `varint_uint32_unpack` from an index on: the number, and the count it returns. A
shift of 32 bits or more leaves nothing. -/
def varintUint32UnpackFrom (input : Nat → UInt8) : Nat → Nat → Nat → Nat × Nat
  | 0, i, parsed             => (parsed, i + 1)
  | remaining + 1, i, parsed =>
    let parsed := (parsed ||| ((input i).toNat &&& 0x7F) <<< (7 * i)) % 4294967296
    if (input i).toNat &&& 0x80 = 0 then (parsed, i + 1)
    else varintUint32UnpackFrom input remaining (i + 1) parsed

/-- `varint_uint32_unpack`: the number, and how many bytes it says it took. -/
def varintUint32Unpack (input : Nat → UInt8) (inputSize : Nat) : Nat × Nat :=
  varintUint32UnpackFrom input inputSize 0 0

/-- A `uint32_t` unfolded into an `int32_t`. -/
def varintUnfold (v : Nat) : Int :=
  if v &&& 1 = 1 then (asInt32 ((v : Int) + 1)).tdiv (-2) else asInt32 ((v / 2 : Nat) : Int)

def varintInt32Unpack (input : Nat → UInt8) (inputSize : Nat) : Int × Nat :=
  (varintUnfold (varintUint32Unpack input inputSize).1, (varintUint32Unpack input inputSize).2)

/-- `varint_pair_unpack`: the two numbers and how many bytes they took. -/
def varintPairUnpack (data : Nat → UInt8) (dataLength : Nat) : Option (Nat × Nat × Nat) :=
  let first := varintUint32Unpack data dataLength
  if dataLength ≤ first.2 then none
  else
    let second := varintUint32Unpack (fun i => data (first.2 + i)) (dataLength - first.2)
    some (first.1, second.1, first.2 + second.2)

/-! ### Seven bits a byte -/

lemma and_0x7F (n : Nat) : n &&& 0x7F = n % 128 := Nat.and_two_pow_sub_one_eq_mod n 7

lemma and_0x80_eq_zero (c : UInt8) : c.toNat &&& 0x80 = 0 ↔ c.toNat < 0x80 := by
  have hbit : c.toNat &&& 2 ^ 7 = (c.toNat.testBit 7).toNat * 2 ^ 7 := Nat.and_two_pow _ 7
  have hdiv : (c.toNat.testBit 7).toNat = c.toNat / 2 ^ 7 % 2 := Nat.toNat_testBit _ 7
  have hlt := c.toNat_lt
  constructor
  · intro h
    change c.toNat &&& 2 ^ 7 = 0 at h
    omega
  · intro h
    change c.toNat &&& 2 ^ 7 = 0
    omega

lemma toNat_marked (value : Nat) : (value ||| 0x80).toUInt8.toNat = value % 128 + 0x80 := by
  have hlow : (value ||| 2 ^ 7) % 2 ^ 8 = value % 2 ^ 8 ||| 2 ^ 7 := Nat.or_mod_two_pow
  have hbyte : (value ||| 0x80).toUInt8.toNat = (value ||| 2 ^ 7) % 2 ^ 8 := UInt8.toNat_ofNat'
  have hdiv : (value % 2 ^ 8 ||| 2 ^ 7) / 2 ^ 7 = 1 := by
    rw [Nat.or_div_two_pow]
    have hbit : value % 2 ^ 8 / 2 ^ 7 = 0 ∨ value % 2 ^ 8 / 2 ^ 7 = 1 := by omega
    rcases hbit with h | h <;> rw [h] <;> rfl
  have hmod : (value % 2 ^ 8 ||| 2 ^ 7) % 2 ^ 7 = value % 2 ^ 7 := by
    rw [Nat.or_mod_two_pow, Nat.mod_self, Nat.or_zero]
    omega
  rw [hbyte, hlow]
  omega

lemma toNat_unmarked {value : Nat} (h : value < 0x80) : value.toUInt8.toNat = value := by
  rw [Nat.toUInt8, UInt8.toNat_ofNat']
  exact Nat.mod_eq_of_lt (by omega)

lemma length_varintUint32Pack (value : Nat) :
    (varintUint32Pack value).length = varintUint32Length value := by
  fun_induction varintUint32Pack value with
  | case1 value h ih => rw [varintUint32Length, if_pos h, List.length_cons, ih]
  | case2 value h => rw [varintUint32Length, if_neg h, List.length_singleton]

lemma varintUint32Length_le {k value : Nat} (h : value < 2 ^ (7 * (k + 1))) :
    varintUint32Length value ≤ k + 1 := by
  induction k generalizing value with
  | zero =>
    rw [varintUint32Length, if_neg (by omega)]
  | succ k ih =>
    rw [varintUint32Length]
    split_ifs with hge
    · apply Nat.succ_le_succ
      apply ih
      rw [Nat.shiftRight_eq_div_pow]
      apply Nat.div_lt_of_lt_mul
      rw [← Nat.pow_add]
      rwa [Nat.mul_succ, Nat.add_comm] at h
    · exact Nat.succ_le_succ (Nat.zero_le _)

/-! ### Reading what was written -/

/-- The memory starts with these bytes from an index on. -/
def StartsAt (input : Nat → UInt8) (i : Nat) (bytes : List UInt8) : Prop :=
  ∀ j < bytes.length, input (i + j) = bytes.getD j 0

lemma StartsAt.head {input : Nat → UInt8} {i : Nat} {c : UInt8} {bytes : List UInt8}
    (h : StartsAt input i (c :: bytes)) : input i = c := h 0 (Nat.succ_pos _)

lemma StartsAt.tail {input : Nat → UInt8} {i : Nat} {c : UInt8} {bytes : List UInt8}
    (h : StartsAt input i (c :: bytes)) : StartsAt input (i + 1) bytes := by
  intro j hj
  have hnext := h (j + 1) (Nat.succ_lt_succ hj)
  rwa [← Nat.add_assoc, Nat.add_right_comm, List.getD_cons_succ] at hnext

lemma or_low_bits {parsed bits i : Nat} (hparsed : parsed < 2 ^ (7 * i))
    (hlt : parsed + bits * 2 ^ (7 * i) < 4294967296) :
    (parsed ||| bits <<< (7 * i)) % 4294967296 = parsed + bits * 2 ^ (7 * i) := by
  rw [or_shiftLeft hparsed, Nat.mod_eq_of_lt hlt]

/-- The loop reads the bytes of a number to their end, whatever follows. -/
lemma varintUint32UnpackFrom_pack (input : Nat → UInt8) (value : Nat) :
    ∀ remaining i parsed, StartsAt input i (varintUint32Pack value) →
      (varintUint32Pack value).length ≤ remaining → parsed < 2 ^ (7 * i) →
      parsed + value * 2 ^ (7 * i) < 4294967296 →
      varintUint32UnpackFrom input remaining i parsed =
        (parsed + value * 2 ^ (7 * i), i + (varintUint32Pack value).length) := by
  fun_induction varintUint32Pack value with
  | case1 value h ih =>
    intro remaining i parsed hstart hlen hparsed hlt
    obtain ⟨r, rfl⟩ : ∃ r, remaining = r + 1 :=
      Nat.exists_eq_succ_of_ne_zero (by rw [List.length_cons] at hlen; omega)
    have hpow : 2 ^ (7 * (i + 1)) = 128 * 2 ^ (7 * i) := by rw [Nat.mul_succ, Nat.pow_add,
      Nat.mul_comm]
    -- the number is its low seven bits and what is left
    have hvalue : value % 128 * 2 ^ (7 * i) + value >>> 7 * 2 ^ (7 * (i + 1)) =
        value * 2 ^ (7 * i) := by
      rw [hpow, ← Nat.mul_assoc, ← Nat.add_mul, Nat.shiftRight_eq_div_pow, Nat.mul_comm _ 128]
      exact congrArg (· * _) (Nat.mod_add_div value 128)
    have hlow : (value % 128) * 2 ^ (7 * i) ≤ 127 * 2 ^ (7 * i) :=
      Nat.mul_le_mul_right _ (by omega)
    have hbits : (input i).toNat &&& 0x7F = value % 128 := by
      rw [hstart.head, toNat_marked, and_0x7F]
      omega
    have hmark : ¬ (input i).toNat &&& 0x80 = 0 := by
      rw [and_0x80_eq_zero, hstart.head, toNat_marked]
      omega
    rw [varintUint32UnpackFrom, if_neg hmark, hbits, or_low_bits hparsed (by omega),
      ih r (i + 1) _ hstart.tail (Nat.le_of_succ_le_succ hlen) (by omega) (by omega),
      List.length_cons]
    congr 1
    · omega
    · omega
  | case2 value h =>
    intro remaining i parsed hstart hlen hparsed hlt
    obtain ⟨r, rfl⟩ : ∃ r, remaining = r + 1 :=
      Nat.exists_eq_succ_of_ne_zero (by rw [List.length_singleton] at hlen; omega)
    have hvalue : value < 0x80 := Nat.lt_of_not_le h
    have hbits : (input i).toNat &&& 0x7F = value := by
      rw [hstart.head, toNat_unmarked hvalue, and_0x7F]
      exact Nat.mod_eq_of_lt hvalue
    have hmark : (input i).toNat &&& 0x80 = 0 := by
      rw [and_0x80_eq_zero, hstart.head, toNat_unmarked hvalue]
      exact hvalue
    rw [varintUint32UnpackFrom, if_pos hmark, hbits, or_low_bits hparsed hlt, List.length_singleton]

/-- `varint_uint32_unpack` reads what `varint_uint32_pack` writes. -/
theorem varintUint32Unpack_pack {input : Nat → UInt8} {inputSize value : Nat}
    (hvalue : value < 4294967296) (hstart : StartsAt input 0 (varintUint32Pack value))
    (hsize : (varintUint32Pack value).length ≤ inputSize) :
    varintUint32Unpack input inputSize = (value, (varintUint32Pack value).length) := by
  have hread := varintUint32UnpackFrom_pack input value inputSize 0 0 hstart hsize Nat.one_pos
    (by simpa using hvalue)
  simpa [varintUint32Unpack] using hread

/-! ### Signed numbers -/

lemma varintFold_lt (value : Int) : varintFold value < 4294967296 := by
  rw [varintFold]
  split_ifs <;> exact asUInt32_lt _

/-- Folding and unfolding gives a number back if and only if it is above a quarter of the range:
below, the number behind the fold does not fit an `int32_t`. -/
lemma varintUnfold_fold_iff {value : Int} (hlow : -2147483648 ≤ value) (hhigh : value < 2147483648) :
    varintUnfold (varintFold value) = value ↔ -1073741824 < value := by
  rw [varintUnfold, varintFold, Nat.and_one_is_mod]
  by_cases hsign : 0 ≤ value
  · have hv : asUInt32 (value * 2) = (2 * value).toNat := asUInt32_eq (by omega) (by omega)
    rw [if_pos hsign, hv, if_neg (by omega), asInt32_of_bounds (by omega) (by omega)]
    omega
  · have hv : asUInt32 (value * -2 - 1) = (-2 * value - 1).toNat := asUInt32_eq (by omega) (by omega)
    have hnext : (((-2 * value - 1).toNat : Nat) : Int) + 1 = -2 * value := by omega
    rw [if_neg hsign, hv, if_pos (by omega), hnext]
    by_cases hsmall : -1073741824 < value
    · rw [asInt32_of_bounds (by omega) (by omega), Int.mul_tdiv_cancel_left value (by decide)]
      exact iff_of_true rfl hsmall
    · have hwrap : asInt32 (-2 * value) = -2 * (value + 2147483648) := by
        unfold asInt32
        split_ifs <;> omega
      rw [hwrap, Int.mul_tdiv_cancel_left _ (by decide)]
      omega

/-- A signed number is written with its length, at most five bytes, and read back with it from any
memory that starts with them. -/
def VarintInt32RoundTrip (value : Int) : Prop :=
  (varintInt32Pack value).length = varintInt32Length value ∧ varintInt32Length value ≤ 5 ∧
    ∀ input inputSize, StartsAt input 0 (varintInt32Pack value) →
      (varintInt32Pack value).length ≤ inputSize →
      varintInt32Unpack input inputSize = (value, varintInt32Length value)

/-- What is read back is the number unfolded, with the right length. -/
lemma varintInt32Unpack_pack {input : Nat → UInt8} {inputSize : Nat} {value : Int}
    (hstart : StartsAt input 0 (varintInt32Pack value))
    (hsize : (varintInt32Pack value).length ≤ inputSize) :
    varintInt32Unpack input inputSize =
      (varintUnfold (varintFold value), varintInt32Length value) := by
  rw [varintInt32Unpack, varintUint32Unpack_pack (varintFold_lt value) hstart hsize,
    length_varintUint32Pack]
  rfl

/-- The signed numbers that survive the round trip are those above `-2 ^ 30`. The lengths are
right for all of them. -/
theorem varintInt32RoundTrip_iff {value : Int} (hlow : -2147483648 ≤ value)
    (hhigh : value < 2147483648) : VarintInt32RoundTrip value ↔ -1073741824 < value := by
  rw [← varintUnfold_fold_iff hlow hhigh]
  constructor
  · rintro ⟨-, -, hread⟩
    have hstart : StartsAt (fun j => (varintInt32Pack value).getD j 0) 0 (varintInt32Pack value) := by
      intro j _
      rw [Nat.zero_add]
    have heq := hread _ _ hstart (Nat.le_refl _)
    rw [varintInt32Unpack_pack hstart (Nat.le_refl _)] at heq
    exact congrArg Prod.fst heq
  · intro hvalue
    refine ⟨length_varintUint32Pack _, ?_, ?_⟩
    · apply varintUint32Length_le
      exact Nat.lt_of_lt_of_le (varintFold_lt value) (by decide)
    · intro input inputSize hstart hsize
      rw [varintInt32Unpack_pack hstart hsize, hvalue]

/-- The largest number. -/
theorem varintInt32RoundTrip_max : VarintInt32RoundTrip 2147483647 :=
  (varintInt32RoundTrip_iff (by decide) (by decide)).mpr (by decide)

/-- The number `-2 ^ 30` comes back without its sign. -/
theorem not_varintInt32RoundTrip :
    varintUnfold (varintFold (-1073741824)) = 1073741824 ∧
      ¬ VarintInt32RoundTrip (-1073741824) := by
  have hunfold : varintUnfold (varintFold (-1073741824)) = 1073741824 := by decide
  refine ⟨hunfold, ?_⟩
  rintro ⟨-, -, hread⟩
  have hstart : StartsAt (fun j => (varintInt32Pack (-1073741824)).getD j 0) 0
      (varintInt32Pack (-1073741824)) := by
    intro j _
    rw [Nat.zero_add]
  have heq := hread _ _ hstart (Nat.le_refl _)
  rw [varintInt32Unpack_pack hstart (Nat.le_refl _), hunfold] at heq
  exact absurd (congrArg Prod.fst heq) (by decide)

/-! ### What the reader says it took -/

/-- A byte that ends a number. -/
def EndsVarint (c : UInt8) : Prop := c.toNat < 0x80

instance (c : UInt8) : Decidable (EndsVarint c) := inferInstanceAs (Decidable (c.toNat < 0x80))

/-- The loop stops behind the first byte that ends a number. When there is none it stops at the
end of the input, and counts one byte more. -/
lemma varintUint32UnpackFrom_count (input : Nat → UInt8) (remaining : Nat) :
    ∀ i parsed, ∃ t, (varintUint32UnpackFrom input remaining i parsed).2 = t + 1 ∧
      i ≤ t ∧ t ≤ i + remaining ∧ (∀ j, i ≤ j → j < t → ¬ EndsVarint (input j)) ∧
      (t < i + remaining → EndsVarint (input t)) := by
  induction remaining with
  | zero =>
    intro i parsed
    refine ⟨i, rfl, Nat.le_refl i, Nat.le_refl i, ?_, ?_⟩
    · intro j hj hlt
      exact absurd hlt (Nat.not_lt.mpr hj)
    · intro hlt
      exact absurd hlt (Nat.lt_irrefl i)
  | succ remaining ih =>
    intro i parsed
    rw [varintUint32UnpackFrom]
    by_cases hmark : (input i).toNat &&& 0x80 = 0
    · rw [if_pos hmark]
      refine ⟨i, rfl, Nat.le_refl i, Nat.le_add_right _ _, ?_, ?_⟩
      · intro j hj hlt
        exact absurd hlt (Nat.not_lt.mpr hj)
      · intro _
        exact (and_0x80_eq_zero _).mp hmark
    · rw [if_neg hmark]
      obtain ⟨t, hcount, hle, hend, hbefore, hat⟩ := ih (i + 1)
        ((parsed ||| ((input i).toNat &&& 0x7F) <<< (7 * i)) % 4294967296)
      refine ⟨t, hcount, Nat.le_of_succ_le hle, by omega, ?_, ?_⟩
      · intro j hj hlt
        rcases Nat.eq_or_lt_of_le hj with rfl | hgt
        · intro hends
          exact hmark ((and_0x80_eq_zero _).mpr hends)
        · exact hbefore j hgt hlt
      · intro hlt
        exact hat (by omega)

/-- The reader stays within its input if and only if a number ends there. -/
lemma varintUint32Unpack_count_le_iff (input : Nat → UInt8) (inputSize : Nat) :
    (varintUint32Unpack input inputSize).2 ≤ inputSize ↔ ∃ i < inputSize, EndsVarint (input i) := by
  obtain ⟨t, hcount, -, -, hbefore, hat⟩ := varintUint32UnpackFrom_count input inputSize 0 0
  rw [Nat.zero_add] at hat
  rw [varintUint32Unpack, hcount]
  constructor
  · intro hlt
    exact ⟨t, hlt, hat hlt⟩
  · rintro ⟨i, hi, hends⟩
    by_contra hge
    exact hbefore i (Nat.zero_le i) (by omega) hends

lemma varintUint32UnpackFrom_congr {input input' : Nat → UInt8} (remaining : Nat) :
    ∀ i parsed, (∀ j, i ≤ j → j < i + remaining → input' j = input j) →
      varintUint32UnpackFrom input' remaining i parsed =
        varintUint32UnpackFrom input remaining i parsed := by
  induction remaining with
  | zero => exact fun _ _ _ => rfl
  | succ remaining ih =>
    intro i parsed h
    rw [varintUint32UnpackFrom, varintUint32UnpackFrom, h i (Nat.le_refl i) (by omega),
      ih (i + 1) _ fun j hj hlt => h j (Nat.le_of_succ_le hj) (by omega)]

lemma varintUint32Unpack_congr {input input' : Nat → UInt8} {inputSize : Nat}
    (h : ∀ i < inputSize, input' i = input i) :
    varintUint32Unpack input' inputSize = varintUint32Unpack input inputSize :=
  varintUint32UnpackFrom_congr inputSize 0 0 fun j _ hj => h j (by omega)

lemma varintPairUnpack_congr {data data' : Nat → UInt8} {dataLength : Nat}
    (h : ∀ i < dataLength, data' i = data i) :
    varintPairUnpack data' dataLength = varintPairUnpack data dataLength := by
  have hsecond (size : Nat) :
      varintUint32Unpack (fun i => data' (size + i)) (dataLength - size) =
        varintUint32Unpack (fun i => data (size + i)) (dataLength - size) :=
    varintUint32Unpack_congr fun i hi => h (size + i) (by omega)
  simp only [varintPairUnpack, varintUint32Unpack_congr h, hsecond]

/-- The reader of a pair stays within its input, if it accepts it, if and only if the input has no
byte that ends a number before its last one, or has two. -/
lemma varintPairUnpack_count_le_iff (data : Nat → UInt8) (dataLength : Nat) :
    (∀ v₁ v₂ length, varintPairUnpack data dataLength = some (v₁, v₂, length) →
        length ≤ dataLength) ↔
      ∀ t, t + 1 < dataLength → EndsVarint (data t) →
        ∃ t' < dataLength, t' ≠ t ∧ EndsVarint (data t') := by
  obtain ⟨t, hcount, -, -, hbefore, hat⟩ := varintUint32UnpackFrom_count data dataLength 0 0
  have hfirst : (varintUint32Unpack data dataLength).2 = t + 1 := hcount
  have hsecond := varintUint32Unpack_count_le_iff (fun i => data (t + 1 + i)) (dataLength - (t + 1))
  simp only [varintPairUnpack, hfirst]
  by_cases hshort : dataLength ≤ t + 1
  · refine iff_of_true ?_ ?_
    · intro v₁ v₂ length h
      rw [if_pos hshort] at h
      exact absurd h (by simp)
    · intro s hs hends
      exact absurd hends (hbefore s (Nat.zero_le s) (by omega))
  · have hends := hat (by omega)
    constructor
    · intro h s hs hs'
      have hle := h _ _ _ (if_neg hshort)
      obtain ⟨j, hj, hjends⟩ := hsecond.mp (by omega)
      by_cases hst : s = t
      · exact ⟨t + 1 + j, by omega, by omega, hjends⟩
      · exact ⟨t, by omega, fun h => hst h.symm, hends⟩
    · intro h v₁ v₂ length hread
      rw [if_neg hshort] at hread
      obtain ⟨s, hs, hne, hs'⟩ := h t (by omega) hends
      have hlater : t < s := by
        by_contra hge
        exact hbefore s (Nat.zero_le s) (by omega) hs'
      have hidx : t + 1 + (s - (t + 1)) = s := by omega
      have hle := hsecond.mpr ⟨s - (t + 1), by omega, by rw [hidx]; exact hs'⟩
      have hlength := congrArg (fun r => r.2.2) (Option.some.inj hread)
      simp only at hlength
      omega

end FlipperZero
