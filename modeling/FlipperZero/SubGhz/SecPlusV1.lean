import FlipperZero.SubGhz.BlockMath
import FlipperZero.Foundation.MachineInt
import Mathlib.Data.Nat.ModEq
import Mathlib.Logic.Function.Basic

/-!
# Security+ 1.0 packets

`secplus_v1.c` sends a fixed part and a rolling counter as twenty ternary digits each. Both are
mixed: a digit of the counter as it is, then the sum of all digits so far modulo three, in two
packets of ten pairs. The counter is sent with its bits reversed.
-/

namespace FlipperZero

open Foundation

/-! ### The code -/

/-- The data of `SubGhzProtocolEncoderSecPlus_v1`. -/
structure SubGhzProtocolEncoderSecPlusV1 where
  data : BitVec 64
  dataArray : Nat → Nat

/-- The digits of a number, split off from the last one to the first. -/
def secPlusV1Split : Nat → Nat → (Nat → Nat) → Nat → Nat
  | 0,     _,      array => array
  | i + 1, number, array => secPlusV1Split i (number / 3) (Function.update array i (number % 3))

/-- The sum and the packets after a pair of digits. -/
def secPlusV1EncodePair (rollingArray fixedArray : Nat → Nat) (shift : Nat)
    (s : Nat × (Nat → Nat)) (i : Nat) : Nat × (Nat → Nat) :=
  let acc := (s.1 + rollingArray (i - 1)) % 2 ^ 32
  let dataArray := Function.update s.2 (i * 2 + shift - 1) (rollingArray (i - 1))
  let acc := (acc + fixedArray (i - 1)) % 2 ^ 32
  (acc, Function.update dataArray (i * 2 + shift) (acc % 3))

/-- The part of `subghz_protocol_secplus_v1_encode` that fills the packets. -/
def secPlusV1Packets (rolling fixed : Nat) (dataArray : Nat → Nat) : Nat → Nat :=
  let rollingArray := secPlusV1Split 20 rolling fun _ => 0
  let fixedArray := secPlusV1Split 20 fixed fun _ => 0
  let dataArray := Function.update (Function.update dataArray 0 0) 21 2
  let dataArray :=
    ((List.range' 1 10).foldl (secPlusV1EncodePair rollingArray fixedArray 0) (0, dataArray)).2
  ((List.range' 11 10).foldl (secPlusV1EncodePair rollingArray fixedArray 1) (0, dataArray)).2

def subghzProtocolSecplusV1Encode (inst : SubGhzProtocolEncoderSecPlusV1) :
    Bool × SubGhzProtocolEncoderSecPlusV1 :=
  let fixed := (inst.data >>> 32).setWidth 32
  -- the counter is stepped, and kept as it is even when it is not sent as it is
  let rolling := inst.data.setWidth 32 + 2
  let data := joinWords fixed rolling
  let rolling := if rolling = 0xFFFFFFFF then 0xE6000000 else rolling
  if 0xCFD41B90 < fixed then (false, { inst with data := data })
  else
    let rolling := subghzProtocolBlocksReverseKey (rolling.setWidth 64) 32
    (true, ⟨data, secPlusV1Packets rolling.toNat fixed.toNat inst.dataArray⟩)

/-- The numbers that `subghz_protocol_secplus_v1_decode` puts together. -/
structure SecPlusV1Sums where
  rolling : Nat
  fixed : Nat
  acc : Nat

/-- The numbers after a pair of symbols. -/
def secPlusV1DecodePair (dataArray : Nat → Nat) (s : SecPlusV1Sums) (i : Nat) : SecPlusV1Sums :=
  let digit := dataArray i
  let rolling := (s.rolling * 3 + digit) % 2 ^ 32
  let acc : Nat := (s.acc + digit) % 2 ^ 32
  let digit : Nat := asUInt32 (60 + dataArray (i + 1) - acc) % 3
  ⟨rolling, (s.fixed * 3 + digit) % 2 ^ 32, (acc + digit) % 2 ^ 32⟩

/-- The key that `subghz_protocol_secplus_v1_decode` stores. -/
def subghzProtocolSecplusV1Decode (dataArray : Nat → Nat) : BitVec 64 :=
  let s := (List.range' 1 10 2).foldl (secPlusV1DecodePair dataArray) ⟨0, 0, 0⟩
  let s := (List.range' 22 10 2).foldl (secPlusV1DecodePair dataArray) { s with acc := 0 }
  let rolling := subghzProtocolBlocksReverseKey (BitVec.ofNat 64 s.rolling) 32
  joinWords (BitVec.ofNat 32 s.fixed) (rolling.setWidth 32)

/-! ### Digits -/

/-- The twenty digits of a number, the highest first. -/
def ternaryDigit (number i : Nat) : Nat := number / 3 ^ (19 - i) % 3

lemma secPlusV1Split_eq (n number : Nat) (array : Nat → Nat) (i : Nat) :
    secPlusV1Split n number array i =
      if i < n then number / 3 ^ (n - 1 - i) % 3 else array i := by
  induction n generalizing number array with
  | zero => rfl
  | succ n ih =>
    rw [secPlusV1Split, ih]
    rcases Nat.lt_trichotomy i n with hlt | rfl | hgt
    · have hpow : n + 1 - 1 - i = (n - 1 - i) + 1 := by omega
      rw [if_pos hlt, if_pos (Nat.lt_succ_of_lt hlt), hpow, Nat.pow_succ', Nat.div_div_eq_div_mul]
    · rw [if_neg (Nat.lt_irrefl i), Function.update_self, if_pos (Nat.lt_succ_self i),
        Nat.add_sub_cancel, Nat.sub_self, Nat.pow_zero, Nat.div_one]
    · rw [if_neg (by omega), if_neg (by omega), Function.update_of_ne (by omega)]

lemma secPlusV1Split_digit (number : Nat) {i : Nat} (hi : i < 20) :
    secPlusV1Split 20 number (fun _ => 0) i = ternaryDigit number i := by
  rw [secPlusV1Split_eq, if_pos hi]
  rfl

lemma ternaryDigit_lt (number i : Nat) : ternaryDigit number i < 3 := Nat.mod_lt _ (by decide)

lemma ternaryDigit_mod (number : Nat) {i : Nat} (hi : i < 20) :
    ternaryDigit (number % 3 ^ 20) i = ternaryDigit number i := by
  have hpow : 3 ^ 20 = 3 ^ (19 - i) * 3 ^ (i + 1) := by
    rw [← Nat.pow_add]
    congr 1
    omega
  rw [ternaryDigit, hpow, Nat.mod_mul_right_div_self,
    Nat.mod_mod_of_dvd _ (dvd_pow_self 3 (Nat.succ_ne_zero i))]
  rfl

lemma div_pow_ternary (number : Nat) {i : Nat} (hi : i < 20) :
    number / 3 ^ (20 - i) * 3 + ternaryDigit number i = number / 3 ^ (20 - (i + 1)) := by
  have hpow : 20 - i = (19 - i) + 1 := by omega
  have hsub : 20 - (i + 1) = 19 - i := by omega
  rw [hpow, hsub, Nat.pow_succ, ← Nat.div_div_eq_div_mul, ternaryDigit]
  omega

/-! ### Packets -/

section Packets

variable (rolling fixed : Nat)

/-- The sum of the digits of the first pairs of a packet. -/
def ternarySum (start : Nat) : Nat → Nat
  | 0     => 0
  | n + 1 => ternarySum start n + ternaryDigit rolling (start + n) + ternaryDigit fixed (start + n)

lemma ternarySum_le (start n : Nat) : ternarySum rolling fixed start n ≤ 4 * n := by
  induction n with
  | zero => exact Nat.le_refl 0
  | succ n ih =>
    have hrolling := ternaryDigit_lt rolling (start + n)
    have hfixed := ternaryDigit_lt fixed (start + n)
    rw [ternarySum]
    omega

/-- The pairs of symbols for the digits from `start` on stand from the index `base` on. -/
def HoldsPairs (dataArray : Nat → Nat) (base start count : Nat) : Prop :=
  ∀ n < count, dataArray (base + 2 * n) = ternaryDigit rolling (start + n) ∧
    dataArray (base + 2 * n + 1) = ternarySum rolling fixed start (n + 1) % 3

variable {rolling fixed} {rollingArray fixedArray : Nat → Nat}

/-- What a packet is after its first pairs, and what is around it. -/
lemma foldl_secPlusV1EncodePair (hrolling : ∀ i < 20, rollingArray i = ternaryDigit rolling i)
    (hfixed : ∀ i < 20, fixedArray i = ternaryDigit fixed i) (dataArray : Nat → Nat)
    (shift start : Nat) {count : Nat} (hcount : count ≤ 10) (hstart : start + count ≤ 20) :
    let s := (List.range' (start + 1) count).foldl
      (secPlusV1EncodePair rollingArray fixedArray shift) (0, dataArray)
    s.1 = ternarySum rolling fixed start count ∧
      HoldsPairs rolling fixed s.2 (2 * start + 1 + shift) start count ∧
      ∀ i, i < 2 * start + 1 + shift ∨ 2 * (start + count) + shift < i → s.2 i = dataArray i := by
  induction count with
  | zero => exact ⟨rfl, fun n hn => absurd hn (Nat.not_lt_zero n), fun i _ => rfl⟩
  | succ count ih =>
    obtain ⟨hacc, hpairs, hrest⟩ := ih (by omega) (by omega)
    rw [List.range'_1_concat, List.foldl_append, List.foldl_cons, List.foldl_nil]
    generalize (List.range' (start + 1) count).foldl
      (secPlusV1EncodePair rollingArray fixedArray shift) (0, dataArray) = s at *
    have hsum := ternarySum_le rolling fixed start (count + 1)
    rw [ternarySum] at hsum
    have hnext : secPlusV1EncodePair rollingArray fixedArray shift s (start + 1 + count) =
        (ternarySum rolling fixed start (count + 1),
          Function.update (Function.update s.2 (2 * start + 1 + shift + 2 * count)
              (ternaryDigit rolling (start + count)))
            (2 * start + 1 + shift + 2 * count + 1)
              (ternarySum rolling fixed start (count + 1) % 3)) := by
      have hindex : start + 1 + count - 1 = start + count := by omega
      have hlow : (start + 1 + count) * 2 + shift - 1 = 2 * start + 1 + shift + 2 * count := by omega
      have hhigh : (start + 1 + count) * 2 + shift = 2 * start + 1 + shift + 2 * count + 1 := by
        omega
      rw [secPlusV1EncodePair, hindex, hlow, hhigh, hrolling _ (by omega), hfixed _ (by omega), hacc,
        Nat.mod_eq_of_lt (by omega), Nat.mod_eq_of_lt (by omega), ternarySum]
    rw [hnext]
    refine ⟨rfl, fun n hn => ?_, fun i hi => ?_⟩ <;> dsimp only
    · rcases Nat.lt_succ_iff_lt_or_eq.mp hn with hlt | rfl
      · rw [Function.update_of_ne (by omega), Function.update_of_ne (by omega),
          Function.update_of_ne (by omega), Function.update_of_ne (by omega)]
        exact hpairs n hlt
      · rw [Function.update_of_ne (by omega), Function.update_self, Function.update_self]
        exact ⟨rfl, rfl⟩
    · rw [Function.update_of_ne (by omega), Function.update_of_ne (by omega)]
      exact hrest i (by omega)

lemma asUInt32_sum_sub (acc digit : Nat) (hacc : acc ≤ 60) (hdigit : digit < 3) :
    asUInt32 (60 + ((acc + digit) % 3 : Nat) - acc) % 3 = digit := by
  have hsub : (60 + ((acc + digit) % 3 : Nat) - acc : Int) =
      (60 + (acc + digit) % 3 - acc : Nat) := by
    omega
  rw [asUInt32_eq hsub (by omega)]
  omega

lemma foldl_secPlusV1DecodePair {dataArray : Nat → Nat} {base start count : Nat}
    (hrolling : rolling < 3 ^ 20) (hfixed : fixed < 3 ^ 20) (hcount : count ≤ 10)
    (hstart : start + count ≤ 20) (h : HoldsPairs rolling fixed dataArray base start count) :
    (List.range' base count 2).foldl (secPlusV1DecodePair dataArray)
        ⟨rolling / 3 ^ (20 - start), fixed / 3 ^ (20 - start), 0⟩ =
      ⟨rolling / 3 ^ (20 - (start + count)), fixed / 3 ^ (20 - (start + count)),
        ternarySum rolling fixed start count⟩ := by
  induction count with
  | zero => rfl
  | succ count ih =>
    obtain ⟨hfirst, hsecond⟩ := h count (Nat.lt_succ_self count)
    have hsum := ternarySum_le rolling fixed start (count + 1)
    rw [ternarySum] at hsum
    have hdigit := asUInt32_sum_sub
      (ternarySum rolling fixed start count + ternaryDigit rolling (start + count))
      (ternaryDigit fixed (start + count)) (by omega) (ternaryDigit_lt fixed (start + count))
    have hrollingNext := div_pow_ternary rolling (i := start + count) (by omega)
    have hfixedNext := div_pow_ternary fixed (i := start + count) (by omega)
    have hrollingLe := Nat.div_le_self rolling (3 ^ (20 - (start + count + 1)))
    have hfixedLe := Nat.div_le_self fixed (3 ^ (20 - (start + count + 1)))
    rw [List.range'_concat, List.foldl_append, List.foldl_cons, List.foldl_nil,
      ih (by omega) (by omega) fun n hn => h n (Nat.lt_succ_of_lt hn), secPlusV1DecodePair]
    simp only [hfirst, hsecond]
    rw [Nat.mod_eq_of_lt (a := ternarySum rolling fixed start count + _) (by omega), ternarySum, hdigit,
      hrollingNext, hfixedNext, Nat.mod_eq_of_lt (by omega), Nat.mod_eq_of_lt (by omega),
      Nat.mod_eq_of_lt (by omega)]
    rfl

lemma holdsPairs_secPlusV1Packets (rolling fixed : Nat) (dataArray : Nat → Nat) :
    HoldsPairs (rolling % 3 ^ 20) fixed (secPlusV1Packets rolling fixed dataArray) 1 0 10 ∧
      HoldsPairs (rolling % 3 ^ 20) fixed (secPlusV1Packets rolling fixed dataArray) 22 10 10 := by
  have hrolling (i : Nat) (hi : i < 20) :
      secPlusV1Split 20 rolling (fun _ => 0) i = ternaryDigit (rolling % 3 ^ 20) i := by
    rw [secPlusV1Split_digit rolling hi, ternaryDigit_mod rolling hi]
  have hfixed (i : Nat) (hi : i < 20) :
      secPlusV1Split 20 fixed (fun _ => 0) i = ternaryDigit fixed i := secPlusV1Split_digit fixed hi
  obtain ⟨-, hfirst, -⟩ := foldl_secPlusV1EncodePair hrolling hfixed
    (Function.update (Function.update dataArray 0 0) 21 2) 0 0 (by decide : 10 ≤ 10) (by decide)
  obtain ⟨-, hsecond, hrest⟩ := foldl_secPlusV1EncodePair hrolling hfixed
    ((List.range' 1 10).foldl (secPlusV1EncodePair (secPlusV1Split 20 rolling fun _ => 0)
      (secPlusV1Split 20 fixed fun _ => 0) 0)
      (0, Function.update (Function.update dataArray 0 0) 21 2)).2
    1 10 (by decide : 10 ≤ 10) (by decide)
  refine ⟨fun n hn => ?_, hsecond⟩
  rw [secPlusV1Packets, hrest _ (by omega), hrest _ (by omega)]
  exact hfirst n hn

lemma subghzProtocolSecplusV1Decode_packets (rolling : Nat) {fixed : Nat} (hfixed : fixed < 3 ^ 20)
    (dataArray : Nat → Nat) :
    subghzProtocolSecplusV1Decode (secPlusV1Packets rolling fixed dataArray) =
      joinWords (BitVec.ofNat 32 fixed) ((subghzProtocolBlocksReverseKey
        (BitVec.ofNat 64 (rolling % 3 ^ 20)) 32).setWidth 32) := by
  obtain ⟨hfirst, hsecond⟩ := holdsPairs_secPlusV1Packets rolling fixed dataArray
  have hrolling : rolling % 3 ^ 20 < 3 ^ 20 := Nat.mod_lt _ (by decide)
  have hread := foldl_secPlusV1DecodePair hrolling hfixed (by decide) (by decide) hfirst
  have hread' := foldl_secPlusV1DecodePair hrolling hfixed (by decide) (by decide) hsecond
  rw [Nat.sub_zero, Nat.div_eq_of_lt hrolling, Nat.div_eq_of_lt hfixed] at hread
  have hall : 20 - (10 + 10) = 0 := rfl
  rw [hall, Nat.pow_zero, Nat.div_one, Nat.div_one] at hread'
  simp only [subghzProtocolSecplusV1Decode, hread, Nat.zero_add, hread']

end Packets

/-! ### Keys -/

/-- The fixed part of the key. -/
def SubGhzProtocolEncoderSecPlusV1.fixed (inst : SubGhzProtocolEncoderSecPlusV1) : BitVec 32 :=
  (inst.data >>> 32).setWidth 32

def SubGhzProtocolEncoderSecPlusV1.stored (inst : SubGhzProtocolEncoderSecPlusV1) : BitVec 32 :=
  inst.data.setWidth 32 + 2

/-- The number whose digits stand for a counter. -/
def secPlusV1Reversed (counter : BitVec 32) : Nat :=
  (subghzProtocolBlocksReverseKey (counter.setWidth 64) 32).toNat

/-- The counter that a number is read as. -/
def secPlusV1Counter (number : Nat) : BitVec 32 :=
  (subghzProtocolBlocksReverseKey (BitVec.ofNat 64 number) 32).setWidth 32

lemma secPlusV1Counter_reversed (counter : BitVec 32) :
    secPlusV1Counter (secPlusV1Reversed counter) = counter := by
  have hlt : (counter.setWidth 64).toNat < 2 ^ (32 : BitVec 8).toNat := by
    rw [BitVec.toNat_setWidth_of_le (by decide)]
    exact counter.isLt
  rw [secPlusV1Counter, secPlusV1Reversed, BitVec.ofNat_toNat, BitVec.setWidth_eq,
    subghzProtocolBlocksReverseKey_twice (by decide) hlt, BitVec.setWidth_setWidth_of_le _ (by decide),
    BitVec.setWidth_eq]

lemma secPlusV1Reversed_counter {number : Nat} (h : number < 2 ^ 32) :
    secPlusV1Reversed (secPlusV1Counter number) = number := by
  have hnumber : (BitVec.ofNat 64 number).toNat = number := Nat.mod_eq_of_lt (by omega)
  have hlt := subghzProtocolBlocksReverseKey_lt (BitVec.ofNat 64 number) 32
  have hword : ((subghzProtocolBlocksReverseKey (BitVec.ofNat 64 number) 32).setWidth 32).setWidth 64 =
      subghzProtocolBlocksReverseKey (BitVec.ofNat 64 number) 32 := by
    refine BitVec.eq_of_toNat_eq ?_
    rw [BitVec.toNat_setWidth_of_le (by decide), BitVec.toNat_setWidth]
    exact Nat.mod_eq_of_lt hlt
  rw [secPlusV1Reversed, secPlusV1Counter, hword,
    subghzProtocolBlocksReverseKey_twice (by decide) (by rw [hnumber]; exact h), hnumber]

variable {inst : SubGhzProtocolEncoderSecPlusV1}

lemma subghzProtocolSecplusV1Encode_eq (h : (subghzProtocolSecplusV1Encode inst).1 = true) :
    inst.fixed.toNat < 3 ^ 20 ∧
      (subghzProtocolSecplusV1Encode inst).2 =
        ⟨joinWords inst.fixed inst.stored,
          secPlusV1Packets
            (secPlusV1Reversed (if inst.stored = 0xFFFFFFFF then 0xE6000000 else inst.stored))
            inst.fixed.toNat inst.dataArray⟩ := by
  rw [subghzProtocolSecplusV1Encode] at h ⊢
  by_cases hfixed : (0xCFD41B90 : BitVec 32) < (inst.data >>> 32).setWidth 32
  · rw [if_pos hfixed] at h
    exact absurd h Bool.false_ne_true
  · rw [if_neg hfixed]
    exact ⟨Nat.lt_succ_of_le (Nat.not_lt.mp hfixed), rfl⟩

/-- A key comes back if and only if the number that its counter is sent as has twenty digits. -/
theorem secPlusV1_decode_encode_iff (inst : SubGhzProtocolEncoderSecPlusV1)
    (h : (subghzProtocolSecplusV1Encode inst).1 = true) :
    subghzProtocolSecplusV1Decode (subghzProtocolSecplusV1Encode inst).2.dataArray =
        (subghzProtocolSecplusV1Encode inst).2.data ↔
      secPlusV1Reversed inst.stored ≤ 3 ^ 20 - 1 := by
  obtain ⟨hfixed, heq⟩ := subghzProtocolSecplusV1Encode_eq h
  rw [heq, subghzProtocolSecplusV1Decode_packets _ hfixed, BitVec.ofNat_toNat, BitVec.setWidth_eq]
  change joinWords inst.fixed (secPlusV1Counter _) = _ ↔ _
  by_cases hwrap : inst.stored = 0xFFFFFFFF
  · -- the number that is sent instead has twenty digits, but the one of the stored counter has not
    have hsent : secPlusV1Counter (secPlusV1Reversed 0xE6000000 % 3 ^ 20) ≠ 0xFFFFFFFF := by
      decide +kernel
    have hstored : ¬secPlusV1Reversed 0xFFFFFFFF ≤ 3 ^ 20 - 1 := by decide +kernel
    rw [if_pos hwrap, hwrap]
    refine iff_of_false (fun hkey => hsent ?_) hstored
    simpa only [joinWords_low] using congrArg (fun key => BitVec.setWidth 32 key) hkey
  · rw [if_neg hwrap]
    constructor
    · intro hkey
      have hcounter : secPlusV1Counter (secPlusV1Reversed inst.stored % 3 ^ 20) = inst.stored := by
        simpa only [joinWords_low] using congrArg (fun key => BitVec.setWidth 32 key) hkey
      have hmod : secPlusV1Reversed inst.stored % 3 ^ 20 < 3 ^ 20 := Nat.mod_lt _ (by decide)
      rw [← hcounter, secPlusV1Reversed_counter (by omega)]
      exact Nat.le_sub_one_of_lt hmod
    · intro hle
      rw [Nat.mod_eq_of_lt (by omega), secPlusV1Counter_reversed]

theorem secPlusV1_decode_encode_iff_sample :
    subghzProtocolSecplusV1Decode
        (subghzProtocolSecplusV1Encode ⟨0x0123456700ABCDEC, fun _ => 0⟩).2.dataArray =
      (subghzProtocolSecplusV1Encode ⟨0x0123456700ABCDEC, fun _ => 0⟩).2.data :=
  (secPlusV1_decode_encode_iff _ (by decide +kernel)).mpr (by decide +kernel)

/-- The counter that is not sent as it is stored does not come back. -/
theorem not_secPlusV1_decode_encode :
    ¬∀ inst : SubGhzProtocolEncoderSecPlusV1, (subghzProtocolSecplusV1Encode inst).1 = true →
      subghzProtocolSecplusV1Decode (subghzProtocolSecplusV1Encode inst).2.dataArray =
        (subghzProtocolSecplusV1Encode inst).2.data := by
  intro h
  have hkey := h ⟨0x00000000FFFFFFFD, fun _ => 0⟩ (by decide +kernel)
  revert hkey
  decide +kernel

end FlipperZero
