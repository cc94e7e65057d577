import FlipperZero.Toolbox.KeysDict

/-!
# The text of a key

`keys_dict_str_to_int` puts the bytes of a line together in a 64-bit number, and
`keys_dict_get_next_key` takes the key from it. So the line of a key is read as the key itself, but
for zeros in front of the last eight bytes.
-/

namespace FlipperZero

namespace KeysDict

/-! ### Parsing a line -/

/-- What stands in `key_byte_tmp` behind the first pairs of characters: the byte of the last pair
that is hexadecimal. -/
def keyByteTmp (stale : UInt8) (str : List UInt8) : Nat → UInt8
  | 0     => stale
  | i + 1 =>
    ((hexCharToUint8 (str.getD (2 * i) 0) (str.getD (2 * i + 1) 0)).map Nat.toUInt8).getD
      (keyByteTmp stale str i)

/-- The bytes of the pairs of characters. -/
def pairBytes (stale : UInt8) (n : Nat) (str : List UInt8) : List UInt8 :=
  (List.range n).map fun i => keyByteTmp stale str (i + 1)

/-- The key that a line stands for: the bytes of its pairs, but zeros in front of the last
eight. -/
def keyOfLine (stale : UInt8) (n : Nat) (str : List UInt8) : List UInt8 :=
  List.replicate (n - 8) 0 ++ (pairBytes stale n str).drop (n - 8)

variable {stale : UInt8} {str : List UInt8} {n : Nat}

lemma hexCharToHexNibble_lt {c : UInt8} {d : Nat} (h : hexCharToHexNibble c = some d) : d < 16 := by
  rw [hexCharToHexNibble] at h
  split_ifs at h with hdigit hupper hlower
  · have := UInt8.le_iff_toNat_le.mp hdigit.2
    obtain rfl := Option.some.inj h
    simp only [UInt8.reduceToNat] at this
    omega
  · have := UInt8.le_iff_toNat_le.mp hupper.2
    obtain rfl := Option.some.inj h
    simp only [UInt8.reduceToNat] at this
    omega
  · have := UInt8.le_iff_toNat_le.mp hlower.2
    obtain rfl := Option.some.inj h
    simp only [UInt8.reduceToNat] at this
    omega

lemma hexCharToUint8_lt {hi low : UInt8} {d : Nat} (h : hexCharToUint8 hi low = some d) :
    d < 256 := by
  obtain ⟨a, ha, h⟩ := Option.bind_eq_some_iff.mp h
  obtain ⟨b, hb, rfl⟩ := Option.map_eq_some_iff.mp h
  have ha' := hexCharToHexNibble_lt ha
  have hb' := hexCharToHexNibble_lt hb
  omega

lemma toNat_keyByteTmp_succ (i : Nat) :
    (keyByteTmp stale str (i + 1)).toNat =
      (hexCharToUint8 (str.getD (2 * i) 0) (str.getD (2 * i + 1) 0)).getD
        (keyByteTmp stale str i).toNat := by
  rw [keyByteTmp]
  cases h : hexCharToUint8 (str.getD (2 * i) 0) (str.getD (2 * i + 1) 0) with
  | none => rfl
  | some d =>
    rw [Option.map_some, Option.getD_some, Option.getD_some, Nat.toUInt8, UInt8.toNat_ofNat']
    exact Nat.mod_eq_of_lt (hexCharToUint8_lt h)

/-- The number that the first bytes stand for, the highest one first. -/
def bytesValue (stale : UInt8) (str : List UInt8) : Nat → Nat
  | 0     => 0
  | i + 1 => bytesValue stale str i * 256 + (keyByteTmp stale str (i + 1)).toNat

/-- The loop puts the bytes together, as far as a `uint64_t` holds them. -/
lemma foldl_strToIntStep {i : Nat} (hi : i ≤ n) :
    (List.range i).foldl (strToIntStep n str) (stale.toNat, 0) =
      ((keyByteTmp stale str i).toNat,
        bytesValue stale str i * 256 ^ (n - i) % 18446744073709551616) := by
  induction i with
  | zero => simp [keyByteTmp, bytesValue]
  | succ i ih =>
    rw [List.range_succ, List.foldl_append, ih (Nat.le_of_succ_le hi), List.foldl_cons,
      List.foldl_nil, strToIntStep, ← toNat_keyByteTmp_succ]
    have hshift : 8 * (n - 1 - i) = 8 * (n - (i + 1)) := by omega
    have hpow : 256 ^ (n - i) = 256 * 256 ^ (n - (i + 1)) := by
      rw [← Nat.pow_succ']
      congr 1
      omega
    have h256 : 256 ^ (n - (i + 1)) = 2 ^ (8 * (n - (i + 1))) := by
      rw [Nat.pow_mul]
    have hbyte : (keyByteTmp stale str (i + 1)).toNat < 2 ^ 8 := UInt8.toNat_lt _
    refine Prod.ext rfl ?_
    simp only
    have hmod : 18446744073709551616 = 2 ^ 64 := rfl
    rw [hmod, Nat.or_mod_two_pow, Nat.mod_mod, ← Nat.or_mod_two_pow, hshift, hpow, h256,
      bytesValue]
    congr 1
    have hor : bytesValue stale str i * 256 ||| (keyByteTmp stale str (i + 1)).toNat =
        bytesValue stale str i * 256 + (keyByteTmp stale str (i + 1)).toNat := by
      have hadd := Nat.shiftLeft_add_eq_or_of_lt hbyte (bytesValue stale str i)
      rw [Nat.shiftLeft_eq] at hadd
      exact hadd.symm
    rw [← Nat.mul_assoc, ← Nat.shiftLeft_eq, ← Nat.shiftLeft_or_distrib, hor, Nat.shiftLeft_eq]

lemma strToInt_eq (stale : UInt8) (n : Nat) (str : List UInt8) :
    strToInt stale n str = bytesValue stale str n % 256 ^ 8 := by
  rw [strToInt, foldl_strToIntStep (Nat.le_refl n), Nat.sub_self, Nat.pow_zero, Nat.mul_one]
  rfl

@[simp] lemma length_keyBytes (n v : Nat) : (keyBytes n v).length = n := by
  induction n generalizing v with
  | zero => rfl
  | succ n ih => rw [keyBytes, List.length_append, ih, List.length_singleton]

lemma keyBytes_bytesValue (n : Nat) : keyBytes n (bytesValue stale str n) = pairBytes stale n str := by
  induction n with
  | zero => rfl
  | succ n ih =>
    have hbyte : (keyByteTmp stale str (n + 1)).toNat < 256 := UInt8.toNat_lt _
    have hdiv : bytesValue stale str (n + 1) >>> 8 = bytesValue stale str n := by
      rw [Nat.shiftRight_eq_div_pow, bytesValue]
      omega
    have hlow : (bytesValue stale str (n + 1)).toUInt8 = keyByteTmp stale str (n + 1) := by
      apply UInt8.toNat_inj.mp
      rw [Nat.toUInt8, UInt8.toNat_ofNat', bytesValue]
      omega
    rw [keyBytes, hdiv, hlow, ih, pairBytes, pairBytes, List.range_succ, List.map_append,
      List.map_singleton]

lemma keyBytes_mod (n k v : Nat) :
    keyBytes n (v % 256 ^ k) = List.replicate (n - k) 0 ++ (keyBytes n v).drop (n - k) := by
  induction n generalizing k v with
  | zero => simp [keyBytes]
  | succ n ih =>
    rw [keyBytes, keyBytes]
    cases k with
    | zero =>
      have hzero := ih 0 0
      rw [Nat.zero_mod, Nat.sub_zero, List.drop_of_length_le (by simp), List.append_nil] at hzero
      rw [Nat.pow_zero, Nat.mod_one, Nat.zero_shiftRight, hzero, Nat.sub_zero,
        List.drop_of_length_le (by simp), List.append_nil, List.replicate_succ']
      rfl
    | succ k =>
      have hdiv : (v % 256 ^ (k + 1)) >>> 8 = (v >>> 8) % 256 ^ k := by
        rw [Nat.shiftRight_eq_div_pow, Nat.shiftRight_eq_div_pow, Nat.pow_succ']
        exact Nat.mod_mul_right_div_self v 256 (256 ^ k)
      have hlow : (v % 256 ^ (k + 1)).toUInt8 = v.toUInt8 := by
        apply UInt8.toNat_inj.mp
        have hmod : v % 256 ^ (k + 1) % 256 = v % 256 := by
          rw [Nat.pow_succ']
          exact Nat.mod_mul_right_mod v 256 (256 ^ k)
        simpa only [Nat.toUInt8, UInt8.toNat_ofNat'] using hmod
      rw [hdiv, hlow, ih, Nat.add_sub_add_right, List.append_assoc,
        List.drop_append_of_le_length (by simp)]

lemma keyBytes_strToInt (stale : UInt8) (n : Nat) (str : List UInt8) :
    keyBytes n (strToInt stale n str) = keyOfLine stale n str := by
  rw [strToInt_eq, keyBytes_mod, keyBytes_bytesValue, keyOfLine]

/-! ### Keys in upper case -/

variable {key : List UInt8}

@[simp] lemma length_intToStr (key : List UInt8) : (intToStr key).length = 2 * key.length := by
  induction key with
  | nil => rfl
  | cons b key ih =>
    rw [intToStr, List.flatMap_cons, List.length_append, length_hexText, List.length_cons]
    rw [intToStr] at ih
    omega

lemma getD_intToStr (key : List UInt8) (i : Nat) (hi : i < key.length) :
    (intToStr key).getD (2 * i) 0 = digitText (key[i].toNat / 16 % 16) ∧
      (intToStr key).getD (2 * i + 1) 0 = digitText (key[i].toNat % 16) := by
  induction key generalizing i with
  | nil => exact absurd hi (Nat.not_lt_zero i)
  | cons b key ih =>
    have hcons : intToStr (b :: key) =
        digitText (b.toNat / 16 % 16) :: digitText (b.toNat % 16) :: intToStr key := rfl
    rw [hcons]
    cases i with
    | zero => exact ⟨rfl, rfl⟩
    | succ i =>
      have hnext := ih i (Nat.lt_of_succ_lt_succ hi)
      rw [Nat.mul_succ]
      simpa using hnext

lemma keyByteTmp_intToStr {i : Nat} (hi : i < key.length) :
    keyByteTmp stale (intToStr key) (i + 1) = key[i] := by
  have hlt := UInt8.toNat_lt key[i]
  obtain ⟨hhigh, hlow⟩ := getD_intToStr key i hi
  have hdiv : key[i].toNat / 16 % 16 = key[i].toNat / 16 := Nat.mod_eq_of_lt (by omega)
  rw [keyByteTmp, hhigh, hlow, hdiv, hexCharToUint8_digitText hlt]
  simp

lemma pairBytes_intToStr (stale : UInt8) (key : List UInt8) :
    pairBytes stale key.length (intToStr key) = key := by
  apply List.ext_getElem
  · simp [pairBytes]
  · intro i hi hi'
    simp only [pairBytes, List.getElem_map, List.getElem_range]
    exact keyByteTmp_intToStr hi'

/-- The text of a key is read as the key itself, but for zeros in front of the last eight
bytes. -/
lemma keyOfLine_intToStr (stale : UInt8) (key : List UInt8) :
    keyOfLine stale key.length (intToStr key) =
      List.replicate (key.length - 8) 0 ++ key.drop (key.length - 8) := by
  rw [keyOfLine, pairBytes_intToStr]

@[simp] lemma length_keyOfLine (stale : UInt8) (n : Nat) (str : List UInt8) :
    (keyOfLine stale n str).length = n := by
  simp [keyOfLine, pairBytes]

end KeysDict

end FlipperZero
