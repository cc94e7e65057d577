import FlipperZero.Toolbox.Strint

/-!
# What the integer readers accept

The readers of `strint.c` share one body, with two limits for each type. They are compared with
the text of a number as such: white space, at most one sign, the longest prefix there is, and the
longest run of digits.
-/

namespace FlipperZero

/-! ### The readers -/

/-- The types that `STRINT_MONO` makes readers for. -/
inductive StrintType where
  | uint64
  | int64
  | uint32
  | int32
  | uint16
  | int16
  deriving DecidableEq, Repr

/-- `strint_to_uint64`, with what follows the number. -/
def strintToUint64 (str : List UInt8) (base : Nat) :
    Except StrintParseError (Nat × List UInt8) :=
  match strintToUint64Internal str base 0 18446744073709551615 with
  | .error e => .error e
  | .ok (absolute, _, rest) => .ok (absolute, rest)

/-- `strint_to_int64`, with what follows the number. -/
def strintToInt64 (str : List UInt8) (base : Nat) :
    Except StrintParseError (Int × List UInt8) :=
  match strintToUint64Internal str base 9223372036854775808 9223372036854775807 with
  | .error e => .error e
  | .ok (absolute, negative, rest) => .ok (if negative then -absolute else absolute, rest)

/-- `strint_to_uint16`, with what follows the number. -/
def strintToUint16 (str : List UInt8) (base : Nat) :
    Except StrintParseError (Nat × List UInt8) :=
  match strintToUint64Internal str base 0 65535 with
  | .error e => .error e
  | .ok (absolute, _, rest) => .ok (absolute, rest)

/-- `strint_to_int16`, with what follows the number. -/
def strintToInt16 (str : List UInt8) (base : Nat) :
    Except StrintParseError (Int × List UInt8) :=
  match strintToUint64Internal str base 32768 32767 with
  | .error e => .error e
  | .ok (absolute, negative, rest) => .ok (if negative then -absolute else absolute, rest)

def strintTo : StrintType → List UInt8 → Nat → Except StrintParseError (Int × List UInt8)
  | .uint64, str, base => (strintToUint64 str base).map fun r => ((r.1 : Int), r.2)
  | .int64, str, base  => strintToInt64 str base
  | .uint32, str, base => (strintToUint32 str base).map fun r => ((r.1 : Int), r.2)
  | .int32, str, base  => strintToInt32 str base
  | .uint16, str, base => (strintToUint16 str base).map fun r => ((r.1 : Int), r.2)
  | .int16, str, base  => strintToInt16 str base

/-- A call of the reader of a type: its error, if there is one, and what it leaves behind `out`
and `end`. -/
def strintCall (t : StrintType) (str : List UInt8) (base : Nat) (out : Int × List UInt8) :
    Option StrintParseError × Int × List UInt8 :=
  match strintTo t str base with
  | .error e   => (some e, out)
  | .ok result => (none, result)

namespace StrintType

/-- The least value of a type. -/
def min : StrintType → Int
  | uint64 => 0
  | int64  => -9223372036854775808
  | uint32 => 0
  | int32  => -2147483648
  | uint16 => 0
  | int16  => -32768

/-- The largest value of a type. -/
def max : StrintType → Int
  | uint64 => 18446744073709551615
  | int64  => 9223372036854775807
  | uint32 => 4294967295
  | int32  => 2147483647
  | uint16 => 65535
  | int16  => 32767

def InRange (t : StrintType) (v : Int) : Prop := t.min ≤ v ∧ v ≤ t.max

instance (t : StrintType) (v : Int) : Decidable (t.InRange v) := inferInstanceAs (Decidable (_ ∧ _))

end StrintType

/-! ### The text of a number -/

/-- White space in front of a number. -/
def IsStrintSpace (c : UInt8) : Prop := (9 ≤ c ∧ c ≤ 13) ∨ c = 32

instance (c : UInt8) : Decidable (IsStrintSpace c) := inferInstanceAs (Decidable (_ ∨ _))

/-- The prefixes of a number. -/
inductive StrintPrefix where
  | hexadecimal
  | binary
  | octal
  | none
  deriving DecidableEq, Repr

namespace StrintPrefix

def base : StrintPrefix → Nat
  | hexadecimal => 16
  | binary      => 2
  | octal       => 8
  | none        => 10

/-- How a prefix is written. -/
def texts : StrintPrefix → List (List UInt8)
  | hexadecimal => [[48, 120], [48, 88]]
  | binary      => [[48, 98], [48, 66]]
  | octal       => [[48]]
  | none        => [[]]

def Starts (p : StrintPrefix) (str rest : List UInt8) : Prop :=
  ∃ t ∈ p.texts, str = t ++ rest ∧
    ∀ p' : StrintPrefix, ∀ t' ∈ p'.texts, t' <+: str → t'.length ≤ t.length

end StrintPrefix

def StartsWithDigits (base : Nat) (str : List UInt8) (digits : List Nat) (rest : List UInt8) :
    Prop :=
  ∃ chars, str = chars ++ rest ∧ chars.map strintDigit = digits.map some ∧
    (∀ d ∈ digits, d < base) ∧ ∀ c ∈ rest.head?, ∀ d, strintDigit c = some d → base ≤ d

/-- The value of digits behind a number. -/
def baseValue (base acc : Nat) (digits : List Nat) : Nat :=
  digits.foldl (fun a d => a * base + d) acc

/-- The text of a number: white space, at most one sign, a prefix and at least one digit of the
base, which is the one of the prefix when none is given. A zero on its own is a number of the
octal prefix without digits. -/
def IsNumber (base : Nat) (str : List UInt8) (negative : Bool) (n : Nat) (rest : List UInt8) :
    Prop :=
  ∃ (spaces sign text : List UInt8) (p : StrintPrefix) (behind : List UInt8) (digits : List Nat),
    str = spaces ++ (sign ++ text) ∧ (∀ c ∈ spaces, IsStrintSpace c) ∧
      sign ∈ (if negative then [[45]] else [[], [43]] : List (List UInt8)) ∧
      p.Starts text behind ∧
      StartsWithDigits (if base = 0 then p.base else base) behind digits rest ∧
      (digits ≠ [] ∨ p = .octal) ∧
      n = baseValue (if base = 0 then p.base else base) 0 digits

/-! ### Digits -/

/-- The longest run of digits, and what follows it. -/
def digitRun (base : Nat) : List UInt8 → List Nat × List UInt8
  | []      => ([], [])
  | c :: cs =>
    match strintDigit c with
    | none   => ([], c :: cs)
    | some d => if d < base then (d :: (digitRun base cs).1, (digitRun base cs).2) else ([], c :: cs)

lemma startsWithDigits_digitRun (base : Nat) (str : List UInt8) :
    StartsWithDigits base str (digitRun base str).1 (digitRun base str).2 := by
  induction str with
  | nil => exact ⟨[], rfl, rfl, by simp [digitRun], by simp [digitRun]⟩
  | cons c cs ih =>
    rw [digitRun]
    cases hc : strintDigit c with
    | none =>
      refine ⟨[], rfl, rfl, by simp, ?_⟩
      intro c' hc' d hd
      obtain rfl : c = c' := Option.some.inj hc'
      exact absurd (hc.symm.trans hd) (by simp)
    | some d =>
      by_cases hd : d < base
      · obtain ⟨chars, hstr, hmap, hall, hrest⟩ := ih
        simp only [if_pos hd]
        refine ⟨c :: chars, by rw [List.cons_append, ← hstr], ?_, ?_, hrest⟩
        · rw [List.map_cons, List.map_cons, hc, hmap]
        · intro e he
          rcases List.mem_cons.mp he with rfl | he
          · exact hd
          · exact hall e he
      · simp only [if_neg hd]
        refine ⟨[], rfl, rfl, by simp, ?_⟩
        intro c' hc' e he
        obtain rfl : c = c' := Option.some.inj hc'
        obtain rfl : d = e := Option.some.inj (hc.symm.trans he)
        exact Nat.le_of_not_lt hd

lemma StartsWithDigits.eq_digitRun {base : Nat} {str : List UInt8} {digits : List Nat}
    {rest : List UInt8} (h : StartsWithDigits base str digits rest) :
    digitRun base str = (digits, rest) := by
  obtain ⟨chars, rfl, hmap, hall, hrest⟩ := h
  induction chars generalizing digits with
  | nil =>
    obtain rfl : digits = [] := by simpa using hmap.symm
    rw [List.nil_append]
    cases rest with
    | nil => rfl
    | cons c cs =>
      rw [digitRun]
      cases hc : strintDigit c with
      | none => rfl
      | some d =>
        have hd : ¬ d < base := Nat.not_lt.mpr (hrest c rfl d hc)
        simp only [if_neg hd]
  | cons c chars ih =>
    cases digits with
    | nil => simp at hmap
    | cons d digits =>
      rw [List.map_cons, List.map_cons, List.cons.injEq] at hmap
      have htail := ih hmap.2 fun e he => hall e (List.mem_cons_of_mem d he)
      rw [List.cons_append, digitRun, hmap.1]
      simp only [if_pos (hall d List.mem_cons_self), htail]

lemma le_baseValue {base acc : Nat} (digits : List Nat) (hbase : 0 < base) :
    acc ≤ baseValue base acc digits := by
  induction digits generalizing acc with
  | nil => exact Nat.le_refl _
  | cons d digits ih =>
    have hmul : acc * 1 ≤ acc * base := Nat.mul_le_mul_left acc hbase
    have hnext := @ih (acc * base + d)
    rw [baseValue, List.foldl_cons]
    exact Nat.le_trans (by omega) hnext

lemma strintDigit_le {c : UInt8} {d : Nat} (h : strintDigit c = some d) : d ≤ 35 := by
  rw [strintDigit] at h
  split_ifs at h with hdigit hupper hlower
  · obtain rfl := Option.some.inj h
    have := UInt8.le_iff_toNat_le.mp hdigit.2
    exact Nat.le_trans (Nat.sub_le_sub_right this 48) (by decide)
  · obtain rfl := Option.some.inj h
    have := UInt8.le_iff_toNat_le.mp hupper.2
    exact Nat.le_trans (Nat.add_le_add_right (Nat.sub_le_sub_right this 65) 10) (by decide)
  · obtain rfl := Option.some.inj h
    have := UInt8.le_iff_toNat_le.mp hlower.2
    exact Nat.le_trans (Nat.add_le_add_right (Nat.sub_le_sub_right this 97) 10) (by decide)

/-- The loop takes the whole run of digits, unless their value is above the limit. -/
lemma strintDigits_eq {base limit : Nat} (hlimit : 35 ≤ limit) (str : List UInt8) :
    ∀ result readTotal, result ≤ limit →
      strintDigits base limit result readTotal str =
        if baseValue base result (digitRun base str).1 ≤ limit then
          .ok (baseValue base result (digitRun base str).1,
            readTotal + (digitRun base str).1.length, (digitRun base str).2)
        else .error .overflow := by
  induction str with
  | nil =>
    intro result readTotal hresult
    exact (if_pos hresult).symm
  | cons c cs ih =>
    intro result readTotal hresult
    rw [strintDigits, digitRun]
    cases hc : strintDigit c with
    | none => exact (if_pos hresult).symm
    | some d =>
      simp only
      by_cases hd : d < base
      · have hd35 := strintDigit_le hc
        have hbase : 0 < base := Nat.zero_lt_of_lt hd
        have hdiv : limit / base < result ↔ limit < result * base :=
          Nat.div_lt_iff_lt_mul hbase
        have hle : result * base + d ≤
            baseValue base (result * base + d) (digitRun base cs).1 := le_baseValue _ hbase
        have hcons : baseValue base result (d :: (digitRun base cs).1) =
            baseValue base (result * base + d) (digitRun base cs).1 := rfl
        rw [if_neg (Nat.not_le.mpr hd), if_pos hd, hcons]
        by_cases hfits : result * base + d ≤ limit
        · rw [if_neg (by omega), if_neg (by omega), ih _ _ hfits, List.length_cons, Nat.add_assoc,
            Nat.add_comm 1]
        · rw [if_neg (show ¬ baseValue base (result * base + d) _ ≤ limit by omega)]
          split_ifs
          · rfl
          · rfl
          · omega
      · rw [if_pos (Nat.le_of_not_lt hd), if_neg hd]
        exact (if_pos hresult).symm

/-! ### Prefixes -/

namespace StrintPrefix

lemma eq_of_mem_texts {p p' : StrintPrefix} {t : List UInt8} (h : t ∈ p.texts)
    (h' : t ∈ p'.texts) : p = p' := by
  cases p <;> cases p' <;> first | rfl | (simp only [texts] at h h'; revert h h'; simp; grind)

lemma Starts.unique {p p' : StrintPrefix} {str rest rest' : List UInt8} (h : p.Starts str rest)
    (h' : p'.Starts str rest') : p = p' ∧ rest = rest' := by
  obtain ⟨t, ht, hstr, hlong⟩ := h
  obtain ⟨t', ht', hstr', hlong'⟩ := h'
  have hpre : t <+: str := ⟨rest, hstr.symm⟩
  have hpre' : t' <+: str := ⟨rest', hstr'.symm⟩
  have hlen : t.length = t'.length :=
    Nat.le_antisymm (hlong' p t ht hpre) (hlong p' t' ht' hpre')
  have heq := List.append_inj (hstr.symm.trans hstr') hlen
  exact ⟨eq_of_mem_texts ht (heq.1 ▸ ht'), heq.2⟩

lemma head_texts {p : StrintPrefix} {t : List UInt8} (h : t ∈ p.texts) :
    t.length ≤ 2 ∧ (t ≠ [] → t.head? = some 48) ∧
      (2 ≤ t.length → t = [48, 120] ∨ t = [48, 88] ∨ t = [48, 98] ∨ t = [48, 66]) := by
  cases p <;> simp only [texts, List.mem_cons, List.not_mem_nil, or_false] at h
  · rcases h with rfl | rfl <;> simp
  · rcases h with rfl | rfl <;> simp
  · subst h
    simp
  · subst h
    simp

lemma starts_strintInferBase (str : List UInt8) :
    ∃ p : StrintPrefix, p.base = (strintInferBase str).1 ∧ p.Starts str (strintInferBase str).2 := by
  have hshort (p' : StrintPrefix) (t' : List UInt8) (ht' : t' ∈ p'.texts) : t'.length ≤ 2 :=
    (head_texts ht').1
  match str with
  | [] =>
    refine ⟨.none, rfl, [], by simp [texts], rfl, ?_⟩
    intro p' t' _ hpre
    exact hpre.length_le
  | c :: cs =>
    by_cases hc : c = 48
    · subst hc
      match cs with
      | [] =>
        refine ⟨.octal, rfl, [48], by simp [texts], rfl, ?_⟩
        intro p' t' _ hpre
        exact hpre.length_le
      | c' :: cs =>
        rw [strintInferBase]
        by_cases hx : c' = 120 ∨ c' = 88
        · rw [if_pos hx]
          refine ⟨.hexadecimal, rfl, [48, c'], ?_, rfl, fun p' t' ht' _ => hshort p' t' ht'⟩
          rcases hx with rfl | rfl <;> simp [texts]
        · rw [if_neg hx]
          by_cases hb : c' = 98 ∨ c' = 66
          · rw [if_pos hb]
            refine ⟨.binary, rfl, [48, c'], ?_, rfl, fun p' t' ht' _ => hshort p' t' ht'⟩
            rcases hb with rfl | rfl <;> simp [texts]
          · rw [if_neg hb]
            refine ⟨.octal, rfl, [48], by simp [texts], rfl, ?_⟩
            intro p' t' ht' hpre
            by_contra hlong
            -- a longer prefix has its letter in second place
            have htwo := (head_texts ht').2.2 (Nat.lt_of_not_le hlong)
            rcases htwo with rfl | rfl | rfl | rfl <;>
              simp [List.cons_prefix_cons] at hpre <;> simp [hpre] at hx hb
    · have hinfer : strintInferBase (c :: cs) = (10, c :: cs) := by
        unfold strintInferBase
        split
        · rename_i heq
          exact absurd (List.cons.inj heq).1 hc
        · rename_i heq
          exact absurd (List.cons.inj heq).1 hc
        · rfl
      rw [hinfer]
      refine ⟨.none, rfl, [], by simp [texts], rfl, ?_⟩
      intro p' t' ht' hpre
      by_contra hlong
      have hne : t' ≠ [] := by
        rintro rfl
        exact hlong (Nat.le_refl 0)
      have hhead := (head_texts ht').2.1 hne
      obtain ⟨rest, hrest⟩ := hpre
      cases t' with
      | nil => exact hne rfl
      | cons d t' =>
        rw [List.cons_append, List.cons.injEq] at hrest
        exact hc (hrest.1 ▸ Option.some.inj hhead)

lemma Starts.inferBase {p : StrintPrefix} {str rest : List UInt8} (h : p.Starts str rest) :
    strintInferBase str = (p.base, rest) := by
  obtain ⟨p', hbase, hstarts⟩ := starts_strintInferBase str
  obtain ⟨rfl, hrest⟩ := h.unique hstarts
  exact Prod.ext hbase.symm hrest.symm

end StrintPrefix

/-! ### The body of the readers -/

lemma strintAbsolute_eq {base limit : Nat} {text behind : List UInt8} {p : StrintPrefix}
    (hlimit : 35 ≤ limit) (hp : p.Starts text behind) :
    strintAbsolute text base limit =
      let run := digitRun (if base = 0 then p.base else base) behind
      let value := baseValue (if base = 0 then p.base else base) 0 run.1
      if run.1 = [] then if p = .octal then .ok (0, run.2) else .error .absent
      else if value ≤ limit then .ok (value, run.2)
      else .error .overflow := by
  have hoctal : p.base = 8 ↔ p = .octal := by cases p <;> decide
  rw [strintAbsolute, hp.inferBase]
  simp only [strintDigits_eq hlimit _ 0 0 (Nat.zero_le limit), hoctal, Nat.zero_add]
  generalize digitRun (if base = 0 then p.base else base) behind = run
  by_cases hrun : run.1 = []
  · have hzero : baseValue (if base = 0 then p.base else base) 0 run.1 ≤ limit := by
      rw [hrun]
      exact Nat.zero_le limit
    rw [if_pos hzero, if_pos hrun]
    simp only [hrun, List.length_nil, if_true]
  · rw [if_neg hrun]
    by_cases hvalue : baseValue (if base = 0 then p.base else base) 0 run.1 ≤ limit
    · rw [if_pos hvalue, if_pos hvalue]
      simp only [List.length_eq_zero_iff, if_neg hrun]
    · rw [if_neg hvalue, if_neg hvalue]

lemma isStrintSpace_lt {c : UInt8} (h : IsStrintSpace c) : c.toNat ≤ 32 := by
  rcases h with ⟨-, h⟩ | rfl
  · exact Nat.le_trans (UInt8.le_iff_toNat_le.mp h) (by decide)
  · decide

/-- A digit or letter is above the signs and the white space. -/
lemma le_of_strintDigit {c : UInt8} {d : Nat} (h : strintDigit c = some d) : 48 ≤ c.toNat := by
  rw [strintDigit] at h
  split_ifs at h with hdigit hupper hlower
  · exact UInt8.le_iff_toNat_le.mp hdigit.1
  · exact Nat.le_trans (by decide) (UInt8.le_iff_toNat_le.mp hupper.1)
  · exact Nat.le_trans (by decide) (UInt8.le_iff_toNat_le.mp hlower.1)

lemma exists_head {base : Nat} {text behind rest : List UInt8} {p : StrintPrefix}
    {digits : List Nat} (hp : p.Starts text behind)
    (hdigits : StartsWithDigits base behind digits rest) (hne : digits ≠ [] ∨ p = .octal) :
    ∃ c cs, text = c :: cs ∧ 48 ≤ c.toNat := by
  obtain ⟨t, ht, rfl, -⟩ := hp
  cases t with
  | cons c t =>
    have hhead := (StrintPrefix.head_texts ht).2.1 (List.cons_ne_nil c t)
    obtain rfl : c = 48 := Option.some.inj hhead
    exact ⟨48, t ++ behind, rfl, by decide⟩
  | nil =>
    have hdig : digits ≠ [] := by
      rcases hne with h | rfl
      · exact h
      · simp [StrintPrefix.texts] at ht
    obtain ⟨chars, rfl, hmap, -, -⟩ := hdigits
    cases chars with
    | nil => exact absurd (by simpa using hmap.symm) hdig
    | cons c chars =>
      cases digits with
      | nil => exact absurd rfl hdig
      | cons d digits =>
        rw [List.map_cons, List.map_cons, List.cons.injEq] at hmap
        exact ⟨c, chars ++ rest, rfl, le_of_strintDigit hmap.1⟩

lemma dropWhile_spaces {spaces text : List UInt8} (sign : List UInt8) (negative : Bool)
    (hspaces : ∀ c ∈ spaces, IsStrintSpace c)
    (hsign : sign ∈ (if negative then [[45]] else [[], [43]] : List (List UInt8)))
    (hspace : sign = [] → ∀ c ∈ text.head?, ¬ IsStrintSpace c) :
    (spaces ++ (sign ++ text)).dropWhile (fun c => (9 ≤ c ∧ c ≤ 13) ∨ c = 32) = sign ++ text := by
  have hskip : (spaces ++ (sign ++ text)).dropWhile (fun c => (9 ≤ c ∧ c ≤ 13) ∨ c = 32) =
      (sign ++ text).dropWhile (fun c => (9 ≤ c ∧ c ≤ 13) ∨ c = 32) :=
    List.dropWhile_append_of_pos fun c hc => decide_eq_true (hspaces c hc)
  have hcases : sign = [] ∨ sign = [43] ∨ sign = [45] := by
    cases negative with
    | true => exact .inr (.inr (by simpa using hsign))
    | false =>
      have hplus : sign = [] ∨ sign = [43] := by simpa using hsign
      exact hplus.imp_right .inl
  rw [hskip]
  rcases hcases with rfl | rfl | rfl
  · cases text with
    | nil => rfl
    | cons c cs =>
      have hc := hspace rfl c rfl
      exact List.dropWhile_cons_of_neg fun h => hc (of_decide_eq_true h)
  · rfl
  · rfl

lemma strintToUint64Internal_of_sign {base maxAbsNegative maxPositive : Nat}
    {str signed text : List UInt8} {negative : Bool}
    (hdrop : str.dropWhile (fun c => (9 ≤ c ∧ c ≤ 13) ∨ c = 32) = signed)
    (hnegative : decide (signed.head? = some 45) = negative)
    (hbehind : (if signed.head? = some 43 ∨ signed.head? = some 45 then signed.tail else signed) =
      text) (hno : ¬(text.head? = some 43 ∨ text.head? = some 45)) :
    strintToUint64Internal str base maxAbsNegative maxPositive =
      if maxAbsNegative = 0 ∧ negative = true then .error .sign
      else
        match strintAbsolute text base (if negative then maxAbsNegative else maxPositive) with
        | .error e => .error e
        | .ok (result, rest) => .ok (result, negative, rest) := by
  simp only [strintToUint64Internal]
  rw [hdrop, hnegative, hbehind]
  exact if_neg hno

lemma strintToUint64Internal_eq {base maxAbsNegative maxPositive : Nat}
    {spaces sign text : List UInt8} {negative : Bool}
    (hspaces : ∀ c ∈ spaces, IsStrintSpace c)
    (hsign : sign ∈ (if negative then [[45]] else [[], [43]] : List (List UInt8)))
    (hspace : sign = [] → ∀ c ∈ text.head?, ¬ IsStrintSpace c) (hplus : text.head? ≠ some 43)
    (hminus : text.head? ≠ some 45) :
    strintToUint64Internal (spaces ++ (sign ++ text)) base maxAbsNegative maxPositive =
      if maxAbsNegative = 0 ∧ negative = true then .error .sign
      else
        match strintAbsolute text base (if negative then maxAbsNegative else maxPositive) with
        | .error e => .error e
        | .ok (result, rest) => .ok (result, negative, rest) := by
  have hdrop := dropWhile_spaces sign negative hspaces hsign hspace
  have hno : ¬(text.head? = some 43 ∨ text.head? = some 45) := fun h => h.elim hplus hminus
  cases negative with
  | true =>
    obtain rfl : sign = [45] := by simpa using hsign
    exact strintToUint64Internal_of_sign hdrop rfl (if_pos (.inr rfl)) hno
  | false =>
    have hcases : sign = [] ∨ sign = [43] := by simpa using hsign
    rcases hcases with rfl | rfl
    · exact strintToUint64Internal_of_sign hdrop (decide_eq_false hminus) (if_neg hno) hno
    · exact strintToUint64Internal_of_sign hdrop rfl (if_pos (.inl rfl)) hno

lemma IsNumber.internal {base n maxAbsNegative maxPositive : Nat} {str rest : List UInt8}
    {negative : Bool} (h : IsNumber base str negative n rest) (hpos : 35 ≤ maxPositive)
    (hneg : maxAbsNegative = 0 ∨ 35 ≤ maxAbsNegative) :
    strintToUint64Internal str base maxAbsNegative maxPositive =
      if maxAbsNegative = 0 ∧ negative = true then .error .sign
      else if n ≤ (if negative then maxAbsNegative else maxPositive) then .ok (n, negative, rest)
      else .error .overflow := by
  obtain ⟨spaces, sign, text, p, behind, digits, rfl, hspaces, hsign, hp, hdigits, hne, rfl⟩ := h
  obtain ⟨c, cs, htext, hc⟩ := exists_head hp hdigits hne
  have hhead : text.head? = some c := by rw [htext, List.head?_cons]
  have hlow (x : UInt8) (hx : x.toNat < 48) : text.head? ≠ some x := by
    rintro heq
    obtain rfl := Option.some.inj (hhead.symm.trans heq)
    exact absurd hc (Nat.not_le.mpr hx)
  have hspace : sign = [] → ∀ x ∈ text.head?, ¬ IsStrintSpace x := by
    intro _ x hx hspace
    exact hlow x (Nat.lt_of_le_of_lt (isStrintSpace_lt hspace) (by decide)) hx
  rw [strintToUint64Internal_eq hspaces hsign hspace (hlow 43 (by decide)) (hlow 45 (by decide))]
  by_cases hunsigned : maxAbsNegative = 0 ∧ negative = true
  · rw [if_pos hunsigned, if_pos hunsigned]
  · have hlimit : 35 ≤ if negative then maxAbsNegative else maxPositive := by
      cases negative with
      | true => exact hneg.resolve_left fun hzero => hunsigned ⟨hzero, rfl⟩
      | false => exact hpos
    rw [if_neg hunsigned, if_neg hunsigned, strintAbsolute_eq hlimit hp]
    simp only [hdigits.eq_digitRun]
    by_cases hnil : digits = []
    · subst hnil
      obtain rfl : p = .octal := hne.resolve_left fun h => h rfl
      simp only [if_true, baseValue, List.foldl_nil, Nat.zero_le]
    · simp only [if_neg hnil]
      split_ifs <;> rfl

lemma strintToUint64Internal_sign {base maxAbsNegative maxPositive : Nat}
    {spaces text : List UInt8} {c : UInt8} (hspaces : ∀ c ∈ spaces, IsStrintSpace c)
    (hsign : c = 43 ∨ c = 45) (htext : text.head? = some 43 ∨ text.head? = some 45) :
    strintToUint64Internal (spaces ++ (c :: text)) base maxAbsNegative maxPositive =
      .error .sign := by
  have hdrop : (spaces ++ (c :: text)).dropWhile (fun c => (9 ≤ c ∧ c ≤ 13) ∨ c = 32) =
      c :: text := by
    rcases hsign with rfl | rfl
    · exact dropWhile_spaces [43] false hspaces (by simp) (by simp)
    · exact dropWhile_spaces [45] true hspaces (by simp) (by simp)
  have hhead : (c :: text).head? = some 43 ∨ (c :: text).head? = some 45 := by
    rcases hsign with rfl | rfl <;> simp
  simp only [strintToUint64Internal]
  rw [hdrop, if_pos hhead, List.tail_cons, if_pos htext]

lemma isNumber_or_absent {base limit : Nat} {spaces sign text : List UInt8} {negative : Bool}
    (hspaces : ∀ c ∈ spaces, IsStrintSpace c)
    (hsign : sign ∈ (if negative then [[45]] else [[], [43]] : List (List UInt8)))
    (hlimit : 35 ≤ limit) :
    (∃ n rest, IsNumber base (spaces ++ (sign ++ text)) negative n rest) ∨
      strintAbsolute text base limit = .error .absent := by
  obtain ⟨p, -, hp⟩ := StrintPrefix.starts_strintInferBase text
  have hdigits := startsWithDigits_digitRun (if base = 0 then p.base else base)
    (strintInferBase text).2
  by_cases hne : (digitRun (if base = 0 then p.base else base) (strintInferBase text).2).1 ≠ [] ∨
      p = .octal
  · exact .inl ⟨_, _, spaces, sign, text, p, _, _, rfl, hspaces, hsign, hp, hdigits, hne, rfl⟩
  · obtain ⟨hnil, hoctal⟩ := not_or.mp hne
    rw [strintAbsolute_eq hlimit hp]
    simp only [if_pos (not_not.mp hnil), if_neg hoctal]
    exact .inr trivial

lemma strintToUint64Internal_cases (base maxAbsNegative maxPositive : Nat) (str : List UInt8)
    (hpos : 35 ≤ maxPositive) (hneg : maxAbsNegative = 0 ∨ 35 ≤ maxAbsNegative) :
    (∃ negative n rest, IsNumber base str negative n rest) ∨
      strintToUint64Internal str base maxAbsNegative maxPositive = .error .sign ∨
      strintToUint64Internal str base maxAbsNegative maxPositive = .error .absent := by
  obtain ⟨spaces, behind, rfl, hspaces, hspace⟩ : ∃ spaces behind, str = spaces ++ behind ∧
      (∀ c ∈ spaces, IsStrintSpace c) ∧ ∀ c ∈ behind.head?, ¬ IsStrintSpace c := by
    refine ⟨str.takeWhile fun c => IsStrintSpace c, str.dropWhile fun c => IsStrintSpace c,
      List.takeWhile_append_dropWhile.symm, ?_, ?_⟩
    · intro c hc
      exact of_decide_eq_true (List.all_eq_true.mp List.all_takeWhile c hc)
    · intro c hc
      have hnot := List.head?_dropWhile_not (fun c => decide (IsStrintSpace c)) str
      rw [Option.mem_def.mp hc] at hnot
      exact of_decide_eq_false hnot
  -- the sign, and the text behind it
  obtain ⟨negative, sign, text, rfl, hsign, hnosign⟩ : ∃ (negative : Bool) (sign text : List UInt8),
      behind = sign ++ text ∧
        sign ∈ (if negative then [[45]] else [[], [43]] : List (List UInt8)) ∧
        (sign = [] → text.head? ≠ some 43 ∧ text.head? ≠ some 45) := by
    match behind with
    | [] => exact ⟨false, [], [], rfl, by simp, by simp⟩
    | c :: text =>
      by_cases hminus : c = 45
      · exact ⟨true, [45], text, by rw [hminus]; rfl, by simp, by simp⟩
      · by_cases hplus : c = 43
        · exact ⟨false, [43], text, by rw [hplus]; rfl, by simp, by simp⟩
        · exact ⟨false, [], c :: text, rfl, by simp, by simp [hplus, hminus]⟩
  by_cases htext : text.head? = some 43 ∨ text.head? = some 45
  · right; left
    have hne : sign ≠ [] := fun h => htext.elim (hnosign h).1 (hnosign h).2
    have hcases : ∃ c, sign = [c] ∧ (c = 43 ∨ c = 45) := by
      cases negative with
      | true => exact ⟨45, by simpa using hsign, .inr rfl⟩
      | false =>
        have hplus : sign = [] ∨ sign = [43] := by simpa using hsign
        exact ⟨43, hplus.resolve_left hne, .inl rfl⟩
    obtain ⟨c, rfl, hc⟩ := hcases
    exact strintToUint64Internal_sign hspaces hc htext
  · obtain ⟨hplus, hminus⟩ := not_or.mp htext
    rw [strintToUint64Internal_eq hspaces hsign (fun h c hc => hspace c (by rw [h]; exact hc)) hplus
      hminus]
    by_cases hunsigned : maxAbsNegative = 0 ∧ negative = true
    · rw [if_pos hunsigned]
      exact .inr (.inl rfl)
    · have hlimit : 35 ≤ if negative then maxAbsNegative else maxPositive := by
        cases negative with
        | true => exact hneg.resolve_left fun hzero => hunsigned ⟨hzero, rfl⟩
        | false => exact hpos
      rw [if_neg hunsigned]
      rcases isNumber_or_absent hspaces hsign hlimit with ⟨n, rest, hnumber⟩ | habsent
      · exact .inl ⟨negative, n, rest, hnumber⟩
      · rw [habsent]
        exact .inr (.inr rfl)

/-! ### The readers and the grammar -/

/-- Whether a type has negative values. -/
def StrintType.Signed (t : StrintType) : Prop := t.min < 0

instance (t : StrintType) : Decidable t.Signed := inferInstanceAs (Decidable (_ < _))

/-- The number that a sign and an absolute value stand for. -/
def signedValue (negative : Bool) (n : Nat) : Int := if negative then -(n : Int) else n

namespace StrintType

/-- The limit of the absolute value of a negative number. -/
def maxAbsNegative : StrintType → Nat
  | uint64 => 0
  | int64  => 9223372036854775808
  | uint32 => 0
  | int32  => 2147483648
  | uint16 => 0
  | int16  => 32768

/-- The limit of a positive number. -/
def maxPositive : StrintType → Nat
  | uint64 => 18446744073709551615
  | int64  => 9223372036854775807
  | uint32 => 4294967295
  | int32  => 2147483647
  | uint16 => 65535
  | int16  => 32767

variable (t : StrintType)

lemma le_maxPositive : 35 ≤ t.maxPositive := by cases t <;> decide

lemma le_maxAbsNegative : t.maxAbsNegative = 0 ∨ 35 ≤ t.maxAbsNegative := by
  cases t <;> decide

lemma min_max_eq : t.min = -(t.maxAbsNegative : Int) ∧ t.max = t.maxPositive := by
  cases t <;> decide

lemma signed_iff : t.Signed ↔ t.maxAbsNegative ≠ 0 := by
  rw [Signed, t.min_max_eq.1]
  omega

lemma inRange_iff {negative : Bool} {n : Nat} (hsign : negative = true → t.Signed) :
    t.InRange (signedValue negative n) ↔
      n ≤ (if negative then t.maxAbsNegative else t.maxPositive) := by
  have hpos := t.le_maxPositive
  rw [InRange, t.min_max_eq.1, t.min_max_eq.2, signedValue]
  cases negative with
  | true =>
    simp only [if_true]
    omega
  | false =>
    simp only [Bool.false_eq_true, if_false]
    omega

end StrintType

/-- The readers differ in their limits only: no reader of an unsigned type gets a negative
number. -/
lemma strintTo_eq (t : StrintType) (str : List UInt8) (base : Nat) :
    strintTo t str base =
      match strintToUint64Internal str base t.maxAbsNegative t.maxPositive with
      | .error e => .error e
      | .ok (absolute, negative, rest) =>
        .ok (signedValue (negative && decide (t.maxAbsNegative ≠ 0)) absolute, rest) := by
  cases t with
  | uint64 =>
    simp only [strintTo, strintToUint64, StrintType.maxAbsNegative, StrintType.maxPositive]
    generalize strintToUint64Internal str base 0 18446744073709551615 = body
    cases body with
    | error e => rfl
    | ok result => simp [Except.map, signedValue]
  | int64 =>
    simp only [strintTo, strintToInt64, StrintType.maxAbsNegative, StrintType.maxPositive]
    generalize strintToUint64Internal str base 9223372036854775808 9223372036854775807 = body
    cases body with
    | error e => rfl
    | ok result => simp [signedValue]
  | uint32 =>
    simp only [strintTo, strintToUint32, StrintType.maxAbsNegative, StrintType.maxPositive]
    generalize strintToUint64Internal str base 0 4294967295 = body
    cases body with
    | error e => rfl
    | ok result => simp [Except.map, signedValue]
  | int32 =>
    simp only [strintTo, strintToInt32, StrintType.maxAbsNegative, StrintType.maxPositive]
    generalize strintToUint64Internal str base 2147483648 2147483647 = body
    cases body with
    | error e => rfl
    | ok result => simp [signedValue]
  | uint16 =>
    simp only [strintTo, strintToUint16, StrintType.maxAbsNegative, StrintType.maxPositive]
    generalize strintToUint64Internal str base 0 65535 = body
    cases body with
    | error e => rfl
    | ok result => simp [Except.map, signedValue]
  | int16 =>
    simp only [strintTo, strintToInt16, StrintType.maxAbsNegative, StrintType.maxPositive]
    generalize strintToUint64Internal str base 32768 32767 = body
    cases body with
    | error e => rfl
    | ok result => simp [signedValue]

lemma IsNumber.read {base n : Nat} {str rest : List UInt8} {negative : Bool}
    (h : IsNumber base str negative n rest) {t : StrintType} (hsign : negative = true → t.Signed) :
    strintTo t str base =
      if t.InRange (signedValue negative n) then .ok (signedValue negative n, rest)
      else .error .overflow := by
  have hsigned : ¬ (t.maxAbsNegative = 0 ∧ negative = true) :=
    fun hneg => t.signed_iff.mp (hsign hneg.2) hneg.1
  have hand : (negative && decide (t.maxAbsNegative ≠ 0)) = negative := by
    cases negative with
    | true => simpa using hsigned
    | false => rfl
  rw [strintTo_eq, h.internal t.le_maxPositive t.le_maxAbsNegative, if_neg hsigned]
  by_cases hrange : t.InRange (signedValue negative n)
  · rw [if_pos hrange, if_pos ((t.inRange_iff hsign).mp hrange)]
    simp only [hand]
  · rw [if_neg hrange, if_neg fun hfits => hrange ((t.inRange_iff hsign).mpr hfits)]

lemma IsNumber.read_sign {base n : Nat} {str rest : List UInt8} {negative : Bool}
    (h : IsNumber base str negative n rest) {t : StrintType}
    (hsign : ¬ (negative = true → t.Signed)) : strintTo t str base = .error .sign := by
  obtain ⟨hneg, hunsigned⟩ := Classical.not_imp.mp hsign
  have hzero : t.maxAbsNegative = 0 := not_not.mp fun hne => hunsigned (t.signed_iff.mpr hne)
  rw [strintTo_eq, h.internal t.le_maxPositive t.le_maxAbsNegative, if_pos ⟨hzero, hneg⟩]

/-- A text that is no number is refused for its sign or for want of digits. -/
lemma strintTo_cases (t : StrintType) (str : List UInt8) (base : Nat) :
    (∃ negative n rest, IsNumber base str negative n rest) ∨
      strintTo t str base = .error .sign ∨ strintTo t str base = .error .absent := by
  rcases strintToUint64Internal_cases base t.maxAbsNegative t.maxPositive str t.le_maxPositive
    t.le_maxAbsNegative with hnumber | hsign | habsent
  · exact .inl hnumber
  · rw [strintTo_eq, hsign]
    exact .inr (.inl rfl)
  · rw [strintTo_eq, habsent]
    exact .inr (.inr rfl)

lemma exists_isNumber {t : StrintType} {str : List UInt8} {base : Nat}
    (hsign : strintTo t str base ≠ .error .sign) (habsent : strintTo t str base ≠ .error .absent) :
    ∃ negative n rest, IsNumber base str negative n rest ∧ (negative = true → t.Signed) := by
  rcases strintTo_cases t str base with ⟨negative, n, rest, hnumber⟩ | herror | herror
  · refine ⟨negative, n, rest, hnumber, ?_⟩
    by_contra hunsigned
    exact hsign (hnumber.read_sign hunsigned)
  · exact absurd herror hsign
  · exact absurd herror habsent

lemma IsNumber.length_lt {base n : Nat} {str rest : List UInt8} {negative : Bool}
    (h : IsNumber base str negative n rest) : rest.length < str.length := by
  obtain ⟨spaces, sign, text, p, behind, digits, rfl, -, -, hp, hdigits, hne, -⟩ := h
  obtain ⟨t, ht, rfl, -⟩ := hp
  obtain ⟨chars, rfl, hmap, -, -⟩ := hdigits
  have hlen : chars.length = digits.length := by simpa using congrArg List.length hmap
  have hpos : 0 < t.length + chars.length := by
    rcases hne with hne | rfl
    · rw [hlen]
      exact Nat.lt_add_left _ (List.length_pos_iff.mpr hne)
    · obtain rfl := List.mem_singleton.mp ht
      exact Nat.lt_add_right _ Nat.one_pos
  simp only [List.length_append]
  omega

lemma strintTo_length_lt {t : StrintType} {str rest : List UInt8} {base : Nat} {v : Int}
    (h : strintTo t str base = .ok (v, rest)) : rest.length < str.length := by
  have hread {e : StrintParseError} : strintTo t str base ≠ .error e := by
    rw [h]
    nofun
  obtain ⟨negative, n, rest', hnumber, hsign⟩ := exists_isNumber hread hread
  rw [hnumber.read hsign] at h
  split_ifs at h
  obtain ⟨-, rfl⟩ := Prod.mk.inj (Except.ok.inj h)
  exact hnumber.length_lt

/-- A reader succeeds if and only if the text is a number whose sign and value its type has, and
then leaves the value and what follows it. It reports an overflow if and only if the text is a
number whose sign its type has, and whose value is out of range. With an error, it leaves what
stood behind `out` and `end`. -/
theorem strintCall_iff (t : StrintType) (str : List UInt8) (base : Nat) (out : Int × List UInt8) :
    (∀ v rest, strintCall t str base out = (none, v, rest) ↔
        ∃ negative n, IsNumber base str negative n rest ∧ (negative = true → t.Signed) ∧
          v = signedValue negative n ∧ t.InRange v) ∧
      ((strintCall t str base out).1 = some .overflow ↔
        ∃ negative n rest, IsNumber base str negative n rest ∧ (negative = true → t.Signed) ∧
          ¬ t.InRange (signedValue negative n)) ∧
      ((strintCall t str base out).1 ≠ none → (strintCall t str base out).2 = out) := by
  refine ⟨?_, ?_, ?_⟩
  · intro v rest
    constructor
    · intro h
      have hok : strintTo t str base = .ok (v, rest) := by
        rw [strintCall] at h
        split at h
        · exact absurd (congrArg Prod.fst h) (by simp)
        · rename_i result hresult
          rw [hresult]
          exact congrArg Except.ok (congrArg Prod.snd h)
      obtain ⟨negative, n, rest', hnumber, hsigned⟩ :=
        exists_isNumber (t := t) (by rw [hok]; simp) (by rw [hok]; simp)
      rw [hnumber.read hsigned] at hok
      split_ifs at hok with hrange
      obtain ⟨rfl, rfl⟩ := Prod.ext_iff.mp (Except.ok.inj hok)
      exact ⟨negative, n, hnumber, hsigned, rfl, hrange⟩
    · rintro ⟨negative, n, hnumber, hsigned, rfl, hrange⟩
      rw [strintCall, hnumber.read hsigned, if_pos hrange]
  · constructor
    · intro h
      have hover : strintTo t str base = .error .overflow := by
        rw [strintCall] at h
        split at h
        · rename_i e he
          rw [he, Option.some.inj h]
        · exact absurd h (by simp)
      obtain ⟨negative, n, rest, hnumber, hsigned⟩ :=
        exists_isNumber (t := t) (by rw [hover]; simp) (by rw [hover]; simp)
      rw [hnumber.read hsigned] at hover
      split_ifs at hover with hrange
      exact ⟨negative, n, rest, hnumber, hsigned, hrange⟩
    · rintro ⟨negative, n, rest, hnumber, hsigned, hrange⟩
      rw [strintCall, hnumber.read hsigned, if_neg hrange]
  · intro h
    rw [strintCall] at h ⊢
    split
    · rfl
    · rename_i result hresult
      rw [hresult] at h
      exact absurd rfl h

/-- The limits of the signed 16-bit reader, and a number of each prefix. -/
example :
    strintTo .int16 [45, 51, 50, 55, 54, 56] 10 = .ok (-32768, []) ∧
      strintTo .int16 [51, 50, 55, 54, 56] 10 = .error .overflow ∧
      strintTo .uint32 [32, 43, 48, 120, 70, 102, 103] 0 = .ok (255, [103]) ∧
      strintTo .uint32 [48, 57] 0 = .ok (0, [57]) ∧
      strintTo .uint32 [48, 120, 103] 0 = .error .absent := by
  decide

end FlipperZero
