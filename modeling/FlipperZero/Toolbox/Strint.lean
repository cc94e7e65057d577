import Mathlib.Data.List.GetD
import Mathlib.Data.Nat.Digits.Lemmas

/-!
# Numbers as text

How `printf` writes the numbers of the text formats, and how the toolbox reads them back: the
hex readers of `hex.c` and the integer reader of `strint.c`. A C string is its bytes before the
zero byte.
-/

namespace FlipperZero

/-! ### Writing -/

def ascii (text : List Char) : List UInt8 := text.map Char.toUInt8

/-- A digit below 10, and a capital letter from 10 on. -/
def digitText (d : Nat) : UInt8 := if d < 10 then 48 + d.toUInt8 else 55 + d.toUInt8

/-- `%u` -/
def decimalText (n : Nat) : List UInt8 :=
  if n = 0 then [48] else (Nat.digits 10 n).reverse.map digitText

/-- `%i` -/
def integerText (n : Int) : List UInt8 :=
  if n < 0 then 45 :: decimalText n.natAbs else decimalText n.natAbs

/-- `%0*X`: the last `width` hexadecimal digits of a number. -/
def hexText : Nat → Nat → List UInt8
  | 0, _         => []
  | width + 1, n => hexText width (n / 16) ++ [digitText (n % 16)]

@[simp] lemma length_hexText (width n : Nat) : (hexText width n).length = width := by
  induction width generalizing n with
  | zero => rfl
  | succ width ih => simp [hexText, ih]

lemma length_decimalText_le {n k : Nat} (hk : 0 < k) (hn : n < 10 ^ k) :
    (decimalText n).length ≤ k := by
  rw [decimalText]
  split_ifs
  · exact hk
  · rw [List.length_map, List.length_reverse]
    exact (Nat.digits_length_le_iff (by decide) n).mpr hn

/-! ### Reading -/

def hexCharToHexNibble (c : UInt8) : Option Nat :=
  if 48 ≤ c ∧ c ≤ 57 then some (c.toNat - 48)
  else if 65 ≤ c ∧ c ≤ 70 then some (c.toNat - 65 + 10)
  else if 97 ≤ c ∧ c ≤ 102 then some (c.toNat - 97 + 10)
  else none

def hexCharToUint8 (hi low : UInt8) : Option Nat :=
  (hexCharToHexNibble hi).bind fun hi => (hexCharToHexNibble low).map fun low => hi * 16 + low

/-- `hex_chars_to_uint64`: pairs of digits from the start of the string, the highest byte
first. -/
def hexCharsToUint64 (str : List UInt8) : Option Nat :=
  (List.range 8).foldlM (fun value i =>
    (hexCharToUint8 (str.getD (i * 2) 0) (str.getD (i * 2 + 1) 0)).map (value * 256 + ·)) 0

/-- `StrintParseError`, without the case of no error. -/
inductive StrintParseError where
  | sign
  | absent
  | overflow
  deriving DecidableEq, Repr

/-- The value of a digit or letter. -/
def strintDigit (c : UInt8) : Option Nat :=
  if 48 ≤ c ∧ c ≤ 57 then some (c.toNat - 48)
  else if 65 ≤ c ∧ c ≤ 90 then some (c.toNat - 65 + 10)
  else if 97 ≤ c ∧ c ≤ 122 then some (c.toNat - 97 + 10)
  else none

/-- The loop over the digits: the result, how many digits were read, and what follows them. The
limits of the callers are far above the value of a digit. -/
def strintDigits (base limit : Nat) :
    Nat → Nat → List UInt8 → Except StrintParseError (Nat × Nat × List UInt8)
  | result, readTotal, []      => .ok (result, readTotal, [])
  | result, readTotal, c :: cs =>
    match strintDigit c with
    | none => .ok (result, readTotal, c :: cs)
    | some digitValue =>
      if base ≤ digitValue then .ok (result, readTotal, c :: cs)
      else if limit / base < result then .error .overflow
      else if limit - digitValue < result * base then .error .overflow
      else strintDigits base limit (result * base + digitValue) (readTotal + 1) cs

/-- The inferred base of a number and what follows its prefix. -/
def strintInferBase : List UInt8 → Nat × List UInt8
  | 48 :: c :: cs =>
    if c = 120 ∨ c = 88 then (16, cs) else if c = 98 ∨ c = 66 then (2, cs) else (8, c :: cs)
  | 48 :: cs => (8, cs)
  | str => (10, str)

/-- The part of `strint_to_uint64_internal` behind the sign: the absolute value and what follows
it. -/
def strintAbsolute (str : List UInt8) (base limit : Nat) :
    Except StrintParseError (Nat × List UInt8) :=
  let inferred := strintInferBase str
  match strintDigits (if base = 0 then inferred.1 else base) limit 0 0 inferred.2 with
  | .error e => .error e
  | .ok (result, readTotal, rest) =>
    if readTotal = 0 then
      -- a single zero was taken for the prefix of an octal number
      if inferred.1 = 8 then .ok (0, rest) else .error .absent
    else .ok (result, rest)

/-- `strint_to_uint64_internal`: the absolute value, the sign, and what follows the number. -/
def strintToUint64Internal (str : List UInt8) (base maxAbsNegative maxPositive : Nat) :
    Except StrintParseError (Nat × Bool × List UInt8) :=
  let str := str.dropWhile fun c => (9 ≤ c ∧ c ≤ 13) ∨ c = 32
  let negative := decide (str.head? = some 45)
  let str := if str.head? = some 43 ∨ str.head? = some 45 then str.tail else str
  if str.head? = some 43 ∨ str.head? = some 45 then .error .sign
  else if maxAbsNegative = 0 ∧ negative = true then .error .sign
  else
    match strintAbsolute str base (if negative then maxAbsNegative else maxPositive) with
    | .error e => .error e
    | .ok (result, rest) => .ok (result, negative, rest)

/-- `strint_to_uint32`, with what follows the number. -/
def strintToUint32 (str : List UInt8) (base : Nat) :
    Except StrintParseError (Nat × List UInt8) :=
  match strintToUint64Internal str base 0 4294967295 with
  | .error e => .error e
  | .ok (absolute, _, rest) => .ok (absolute, rest)

/-- `strint_to_int32`, with what follows the number. -/
def strintToInt32 (str : List UInt8) (base : Nat) :
    Except StrintParseError (Int × List UInt8) :=
  match strintToUint64Internal str base 2147483648 2147483647 with
  | .error e => .error e
  | .ok (absolute, negative, rest) => .ok (if negative then -absolute else absolute, rest)

/-! ### Reading what was written -/

/-- No digit and no letter follows. -/
def EndsNumber (rest : List UInt8) : Prop := ∀ c ∈ rest.head?, strintDigit c = none

lemma strintDigit_digitText {d : Nat} (h : d < 10) :
    strintDigit (digitText d) = some d ∧ 48 ≤ digitText d ∧ digitText d ≤ 57 ∧
      (digitText d = 48 → d = 0) := by
  have hall : ∀ e ∈ List.range 10, strintDigit (digitText e) = some e ∧ 48 ≤ digitText e ∧
      digitText e ≤ 57 ∧ (digitText e = 48 → e = 0) := by decide
  exact hall d (List.mem_range.mpr h)

/-- The value of decimal digits behind a number. -/
def decimalValue (acc : Nat) (ds : List Nat) : Nat := ds.foldl (fun a d => a * 10 + d) acc

lemma le_decimalValue (acc : Nat) (ds : List Nat) : acc ≤ decimalValue acc ds := by
  induction ds generalizing acc with
  | nil => exact Nat.le_refl _
  | cons d ds ih =>
    have hnext := ih (acc * 10 + d)
    rw [decimalValue, List.foldl_cons]
    exact Nat.le_trans (by omega) hnext

lemma strintDigits_decimal {limit : Nat} {rest : List UInt8} (hrest : EndsNumber rest)
    {ds : List Nat} (hds : ∀ d ∈ ds, d < 10) (acc total : Nat)
    (h : decimalValue acc ds ≤ limit) :
    strintDigits 10 limit acc total (ds.map digitText ++ rest) =
      .ok (decimalValue acc ds, total + ds.length, rest) := by
  induction ds generalizing acc total with
  | nil =>
    cases rest with
    | nil => rfl
    | cons c rest =>
      rw [List.map_nil, List.nil_append, strintDigits, hrest c rfl]
      rfl
  | cons d ds ih =>
    have hd := hds d List.mem_cons_self
    have hle : acc * 10 + d ≤ limit := Nat.le_trans (le_decimalValue _ ds) h
    rw [List.map_cons, List.cons_append, strintDigits, (strintDigit_digitText hd).1]
    simp only
    rw [if_neg (by omega), if_neg (by omega), if_neg (by omega),
      ih (fun e he => hds e (List.mem_cons_of_mem d he)) _ _ h, List.length_cons]
    refine congrArg Except.ok (Prod.ext rfl (Prod.ext ?_ rfl))
    simp only
    omega

lemma exists_digits_decimalText (n : Nat) :
    ∃ d ds, decimalText n = digitText d :: ds.map digitText ∧ (∀ e ∈ d :: ds, e < 10) ∧
      decimalValue 0 (d :: ds) = n ∧ (d = 0 → n = 0 ∧ ds = []) := by
  unfold decimalText
  split_ifs with hn
  · exact ⟨0, [], rfl, by simp, hn.symm, fun _ => ⟨hn, rfl⟩⟩
  · have hne : Nat.digits 10 n ≠ [] := Nat.digits_ne_nil_iff_ne_zero.mpr hn
    cases hrev : (Nat.digits 10 n).reverse with
    | nil => exact absurd (List.reverse_eq_nil_iff.mp hrev) hne
    | cons d ds =>
      refine ⟨d, ds, by rw [List.map_cons], ?_, ?_, ?_⟩
      · intro e he
        rw [← hrev] at he
        exact Nat.digits_lt_base (by decide) (List.mem_reverse.mp he)
      · rw [← hrev, decimalValue, List.foldl_reverse]
        have hvalue := Nat.ofDigits_digits 10 n
        rw [Nat.ofDigits_eq_foldr] at hvalue
        conv_rhs => rw [← hvalue]
        congr 1
        funext d acc
        rw [Nat.mul_comm, Nat.add_comm]
        rfl
      · intro hd
        -- the last digit of the list is the first one of the text
        have hlast := Nat.getLast_digit_ne_zero 10 hn
        have heq : (Nat.digits 10 n).getLast hne = d := by
          rw [← List.head_reverse (by rw [hrev]; exact List.cons_ne_nil _ _)]
          simp [hrev]
        exact absurd (heq.trans hd) hlast

lemma strintAbsolute_decimal {limit n : Nat} {rest : List UInt8} (hrest : EndsNumber rest)
    (h : n ≤ limit) : strintAbsolute (decimalText n ++ rest) 10 limit = .ok (n, rest) := by
  obtain ⟨d, ds, htext, hds, hvalue, hzero⟩ := exists_digits_decimalText n
  have hd := strintDigit_digitText (hds d List.mem_cons_self)
  by_cases hd0 : d = 0
  · obtain ⟨rfl, rfl⟩ := hzero hd0
    have hinfer : strintInferBase (decimalText 0 ++ rest) = (8, rest) := by
      cases rest with
      | nil => rfl
      | cons c cs =>
        have hc := hrest c rfl
        have hx : ¬ (c = 120 ∨ c = 88) := by
          rintro (rfl | rfl) <;> exact absurd hc (by decide)
        have hb : ¬ (c = 98 ∨ c = 66) := by
          rintro (rfl | rfl) <;> exact absurd hc (by decide)
        show strintInferBase (48 :: c :: cs) = _
        rw [strintInferBase, if_neg hx, if_neg hb]
    have hnil : ∀ d ∈ ([] : List Nat), d < 10 := fun d hd => absurd hd List.not_mem_nil
    have hdigits : strintDigits 10 limit 0 0 rest = .ok (0, 0, rest) :=
      strintDigits_decimal hrest hnil 0 0 (Nat.zero_le limit)
    have hbase : (if (10 : Nat) = 0 then 8 else 10) = 10 := rfl
    simp only [strintAbsolute, hinfer, hbase, hdigits, if_true]
  · have hinfer : strintInferBase (decimalText n ++ rest) = (10, decimalText n ++ rest) := by
      rw [htext, List.cons_append]
      unfold strintInferBase
      split
      · rename_i heq
        exact absurd (hd.2.2.2 (List.cons.inj heq).1) hd0
      · rename_i heq
        exact absurd (hd.2.2.2 (List.cons.inj heq).1) hd0
      · rfl
    have hdigits : strintDigits 10 limit 0 0 (decimalText n ++ rest) =
        .ok (n, 0 + (d :: ds).length, rest) := by
      have hread := strintDigits_decimal hrest hds 0 0 (hvalue.symm ▸ h)
      rwa [List.map_cons, ← htext, hvalue] at hread
    have hread : ¬ 0 + (d :: ds).length = 0 := by simp
    simp only [strintAbsolute, hinfer, ite_self, hdigits, if_neg hread]

lemma head_decimalText (n : Nat) (rest : List UInt8) :
    (decimalText n ++ rest).dropWhile (fun c => (9 ≤ c ∧ c ≤ 13) ∨ c = 32) =
        decimalText n ++ rest ∧
      (decimalText n ++ rest).head? ≠ some 43 ∧ (decimalText n ++ rest).head? ≠ some 45 := by
  obtain ⟨d, ds, htext, hds, -, -⟩ := exists_digits_decimalText n
  have hchars : ∀ e ∈ List.range 10, ((9 ≤ digitText e ∧ digitText e ≤ 13) ∨ digitText e = 32) ≠
      True ∧ digitText e ≠ 43 ∧ digitText e ≠ 45 := by decide
  obtain ⟨hspace, hplus, hminus⟩ := hchars d (List.mem_range.mpr (hds d List.mem_cons_self))
  rw [htext]
  refine ⟨?_, ?_, ?_⟩
  · rw [List.cons_append, List.dropWhile_cons, if_neg]
    simpa using hspace
  · simpa using hplus
  · simpa using hminus

lemma strintToUint64Internal_decimal {maxAbsNegative maxPositive n : Nat} {rest : List UInt8}
    (hrest : EndsNumber rest) (h : n ≤ maxPositive) :
    strintToUint64Internal (decimalText n ++ rest) 10 maxAbsNegative maxPositive =
      .ok (n, false, rest) := by
  obtain ⟨hspace, hplus, hminus⟩ := head_decimalText n rest
  simp only [strintToUint64Internal, hspace, hplus, hminus, or_self, if_false, decide_false,
    Bool.false_eq_true, and_false, strintAbsolute_decimal hrest h]

lemma strintToUint64Internal_negative {maxAbsNegative maxPositive n : Nat} {rest : List UInt8}
    (hrest : EndsNumber rest) (h : n ≤ maxAbsNegative) (hmax : maxAbsNegative ≠ 0) :
    strintToUint64Internal (45 :: decimalText n ++ rest) 10 maxAbsNegative maxPositive =
      .ok (n, true, rest) := by
  obtain ⟨-, hplus, hminus⟩ := head_decimalText n rest
  have hspace : (45 :: decimalText n ++ rest).dropWhile
      (fun c => (9 ≤ c ∧ c ≤ 13) ∨ c = 32) = 45 :: (decimalText n ++ rest) := rfl
  simp only [strintToUint64Internal, hspace, List.head?_cons, List.tail_cons, or_true, if_true,
    decide_true, hplus, hminus, or_self, if_false, hmax, false_and, strintAbsolute_decimal hrest h]

/-- `strint_to_uint32` reads what `%u` writes. -/
theorem strintToUint32_decimalText {n : Nat} {rest : List UInt8} (hrest : EndsNumber rest)
    (h : n < 4294967296) : strintToUint32 (decimalText n ++ rest) 10 = .ok (n, rest) := by
  rw [strintToUint32, strintToUint64Internal_decimal hrest (Nat.le_of_lt_succ h)]

/-- `strint_to_int32` reads what `%i` writes. -/
theorem strintToInt32_integerText {n : Int} {rest : List UInt8} (hrest : EndsNumber rest)
    (hlow : -2147483648 ≤ n) (hhigh : n ≤ 2147483647) :
    strintToInt32 (integerText n ++ rest) 10 = .ok (n, rest) := by
  unfold integerText
  split_ifs with hneg
  · rw [strintToInt32, strintToUint64Internal_negative hrest (by omega) (by decide)]
    simp only [if_true]
    congr 2
    omega
  · rw [strintToInt32, strintToUint64Internal_decimal hrest (by omega)]
    simp only [Bool.false_eq_true, if_false]
    congr 2
    omega

lemma hexCharToHexNibble_digitText {d : Nat} (h : d < 16) :
    hexCharToHexNibble (digitText d) = some d := by
  have hall : ∀ e ∈ List.range 16, hexCharToHexNibble (digitText e) = some e := by decide
  exact hall d (List.mem_range.mpr h)

lemma hexCharToUint8_digitText {n : Nat} (h : n < 256) :
    hexCharToUint8 (digitText (n / 16)) (digitText (n % 16)) = some n := by
  rw [hexCharToUint8, hexCharToHexNibble_digitText (by omega),
    hexCharToHexNibble_digitText (by omega)]
  simp only [Option.bind_some, Option.map_some]
  congr 1
  omega

/-- The high and the low half of a number, written one after the other. -/
lemma hexText_append (w v n : Nat) : hexText w (n / 16 ^ v) ++ hexText v n = hexText (w + v) n := by
  induction v generalizing n with
  | zero => simp [hexText]
  | succ v ih =>
    have hdiv : n / 16 ^ (v + 1) = n / 16 / 16 ^ v := by
      rw [Nat.div_div_eq_div_mul, Nat.pow_succ, Nat.mul_comm]
    rw [hexText, ← List.append_assoc, hdiv, ih, ← Nat.add_assoc, hexText]

lemma hexPairs_hexText (k : Nat) : ∀ (n : Nat) (rest : List UInt8), n < 256 ^ k →
    (List.range k).foldlM (fun value i =>
      (hexCharToUint8 ((hexText (2 * k) n ++ rest).getD (i * 2) 0)
        ((hexText (2 * k) n ++ rest).getD (i * 2 + 1) 0)).map (value * 256 + ·)) 0 = some n := by
  induction k with
  | zero =>
    intro n rest hn
    obtain rfl : n = 0 := by simpa using hn
    rfl
  | succ k ih =>
    intro n rest hn
    have htext : hexText (2 * (k + 1)) n ++ rest = hexText (2 * k) (n / 256) ++
        (digitText (n % 256 / 16) :: digitText (n % 256 % 16) :: rest) := by
      have hlow : n / 16 % 16 = n % 256 / 16 := by omega
      have hlow' : n % 16 = n % 256 % 16 := by omega
      rw [Nat.mul_succ, hexText, hexText, Nat.div_div_eq_div_mul, hlow, hlow']
      simp
    have hhigh : n / 256 < 256 ^ k := by
      rw [Nat.pow_succ] at hn
      exact Nat.div_lt_of_lt_mul (by rwa [Nat.mul_comm])
    have hlen := length_hexText (2 * k) (n / 256)
    have hmul : 2 * k = k * 2 := Nat.mul_comm 2 k
    rw [htext, List.range_succ, List.foldlM_append, ih (n / 256) _ hhigh]
    simp only [Option.bind_eq_bind, Option.bind_some, List.foldlM_cons, List.foldlM_nil]
    rw [List.getD_append_right _ _ _ _ (by omega), List.getD_append_right _ _ _ _ (by omega), hlen,
      hmul, Nat.sub_self, Nat.add_sub_cancel_left]
    simp only [List.getD_cons_zero, List.getD_cons_succ,
      hexCharToUint8_digitText (Nat.mod_lt n (by decide)), Option.map_some, Option.pure_def,
      Option.bind_some]
    congr 1
    omega

/-- `hex_chars_to_uint64` reads what `%08lX%08lX` writes. -/
theorem hexCharsToUint64_hexText {n : Nat} (h : n < 18446744073709551616) :
    hexCharsToUint64 (hexText 8 (n / 4294967296) ++ hexText 8 n) = some n := by
  have htext : hexText 8 (n / 4294967296) ++ hexText 8 n = hexText 16 n := hexText_append 8 8 n
  have hread := hexPairs_hexText 8 n [] h
  rw [List.append_nil] at hread
  rw [htext, hexCharsToUint64]
  exact hread

end FlipperZero
