import FlipperZero.FlipperFormat.Update
import FlipperZero.SubGhz.FileEncoderWorker
import FlipperZero.SubGhz.RawFile
import FlipperZero.Toolbox.KeysDictRead

/-!
# The lines of a recording

A line of numbers is complete, nothing of it is trimmed but its end, and the worker parses it as its
numbers. No number of a recording is cut, and each is sent as the level and the duration of the
sample that it stands for.
-/

namespace FlipperZero

open Foundation FlipperFormatStream KeysDict

/-! ### The text of numbers -/

/-- A character of a number. -/
def IsNumeral (c : UInt8) : Prop := c = 45 ∨ (48 ≤ c ∧ c ≤ 57)

variable {block : List Int32} {texts : List (List UInt8)} {c : UInt8}

lemma isNumeral_integerText {n : Int} (h : c ∈ integerText n) : IsNumeral c := by
  have hdecimal (m : Nat) (h : c ∈ decimalText m) : IsNumeral c := by
    obtain ⟨d, ds, htext, hds, -⟩ := exists_digits_decimalText m
    rw [htext, ← List.map_cons] at h
    obtain ⟨e, he, rfl⟩ := List.mem_map.mp h
    have hdigit := strintDigit_digitText (hds e he)
    exact Or.inr ⟨hdigit.2.1, hdigit.2.2.1⟩
  rw [integerText] at h
  split_ifs at h
  · rcases List.mem_cons.mp h with rfl | h
    · exact Or.inl rfl
    · exact hdecimal _ h
  · exact hdecimal _ h

lemma IsNumeral.ne {d : UInt8} (hc : IsNumeral c) (hd : d < 45) : c ≠ d := by
  rintro rfl
  rcases hc with rfl | ⟨hlow, -⟩
  · exact absurd hd (by decide)
  · exact absurd (UInt8.lt_of_le_of_lt hlow hd) (by decide)

lemma mem_valueWrites (h : c ∈ (valueWrites texts).flatten) : c = 32 ∨ ∃ t ∈ texts, c ∈ t := by
  fun_induction valueWrites texts with
  | case1 => exact absurd h List.not_mem_nil
  | case2 v =>
    rw [List.flatten_singleton] at h
    exact Or.inr ⟨v, List.mem_singleton_self v, h⟩
  | case3 v t vs ih =>
    rw [List.flatten_cons, List.mem_append, List.mem_append, List.mem_singleton] at h
    rcases h with (h | rfl) | h
    · exact Or.inr ⟨v, List.mem_cons_self, h⟩
    · exact Or.inl rfl
    · rcases ih h with rfl | ⟨u, hu, hcu⟩
      · exact Or.inl rfl
      · exact Or.inr ⟨u, List.mem_cons_of_mem v hu, hcu⟩

lemma last_valueWrites (hne : texts ≠ []) (h : ∀ t ∈ texts, t ≠ []) :
    ∃ t ∈ texts, ∃ init, ∃ c ∈ t, (valueWrites texts).flatten = init ++ [c] := by
  fun_induction valueWrites texts with
  | case1 => exact absurd rfl hne
  | case2 v =>
    have hv := h v (List.mem_singleton_self v)
    refine ⟨v, List.mem_singleton_self v, v.dropLast, v.getLast hv, List.getLast_mem hv, ?_⟩
    rw [List.flatten_singleton, List.dropLast_append_getLast]
  | case3 v t vs ih =>
    obtain ⟨u, hu, init, c, hc, heq⟩ := ih (List.cons_ne_nil t vs) fun x hx =>
      h x (List.mem_cons_of_mem v hx)
    refine ⟨u, List.mem_cons_of_mem v hu, v ++ [space] ++ init, c, hc, ?_⟩
    rw [List.flatten_cons, heq, ← List.append_assoc]

def numbersText (block : List Int32) : List UInt8 :=
  (valueWrites (block.map fun n => integerText n.toInt)).flatten

/-- What `subghz_file_encoder_worker_data_parse` looks for. -/
def rawDataKey : List UInt8 := ascii ['R', 'A', 'W', '_', 'D', 'a', 't', 'a', ':', ' ']

lemma rawLine_bytes (block : List Int32) :
    (rawLine block).bytes = rawDataKey ++ numbersText block ++ [10] := rfl

lemma integerText_ne_nil (n : Int) : integerText n ≠ [] := (plainText_integerText n).ne_nil

lemma mem_numbersText (h : c ∈ numbersText block) : c = 32 ∨ IsNumeral c := by
  rcases mem_valueWrites h with rfl | ⟨t, ht, hct⟩
  · exact Or.inl rfl
  · obtain ⟨n, -, rfl⟩ := List.mem_map.mp ht
    exact Or.inr (isNumeral_integerText hct)

lemma notMem_numbersText {d : UInt8} (hd : d < 32) : d ∉ numbersText block := by
  intro hmem
  rcases mem_numbersText hmem with rfl | hnumeral
  · exact absurd hd (by decide)
  · exact hnumeral.ne (UInt8.lt_trans hd (by decide)) rfl

lemma last_numbersText (hne : block ≠ []) :
    ∃ init c, numbersText block = init ++ [c] ∧ IsNumeral c := by
  have hmap : block.map (fun n => integerText n.toInt) ≠ [] := by simpa using hne
  have htexts : ∀ t ∈ block.map (fun n => integerText n.toInt), t ≠ [] := by
    intro t ht
    obtain ⟨n, -, rfl⟩ := List.mem_map.mp ht
    exact integerText_ne_nil _
  obtain ⟨t, ht, init, c, hc, heq⟩ := last_valueWrites hmap htexts
  obtain ⟨n, -, rfl⟩ := List.mem_map.mp ht
  exact ⟨init, c, heq, isNumeral_integerText hc⟩

/-! ### Reading a line -/

lemma completeLine_rawLine (block : List Int32) : CompleteLine 10 (rawLine block).bytes := by
  refine ⟨rawDataKey ++ numbersText block, ?_, rawLine_bytes block⟩
  rw [List.mem_append, not_or]
  exact ⟨by decide, notMem_numbersText (by decide)⟩

lemma lineText_rawLine (block : List Int32) :
    lineText (rawLine block).bytes = (rawLine block).bytes := by
  refine List.filter_eq_self.mpr fun c hc => ?_
  have hne : c ≠ 13 := by
    rintro rfl
    rw [rawLine_bytes, List.mem_append, List.mem_append] at hc
    rcases hc with (hc | hc) | hc
    · exact absurd hc (by decide)
    · exact notMem_numbersText (by decide) hc
    · exact absurd hc (by decide)
  exact decide_eq_true hne

lemma furiStringTrim_rawLine (hne : block ≠ []) :
    furiStringTrim (rawLine block).bytes = rawDataKey ++ numbersText block := by
  obtain ⟨init, c, htext, hc⟩ := last_numbersText hne
  have hkeep : ¬furiStringIsTrimmed c = true := by
    have h32 := hc.ne (d := 32) (by decide)
    have h10 := hc.ne (d := 10) (by decide)
    have h13 := hc.ne (d := 13) (by decide)
    have h9 := hc.ne (d := 9) (by decide)
    simp [furiStringIsTrimmed, h32, h10, h13, h9]
  have hstart : (rawLine block).bytes.dropWhile furiStringIsTrimmed = (rawLine block).bytes := rfl
  rw [furiStringTrim, hstart, rawLine_bytes, List.rdropWhile_concat_pos _ _ _ (by decide), htext,
    ← List.append_assoc, List.rdropWhile_concat_neg _ _ _ hkeep]

lemma strstr_prefix {pattern : List UInt8} (hne : pattern ≠ []) (rest : List UInt8) :
    strstr pattern (pattern ++ rest) = some (pattern ++ rest) := by
  cases pattern with
  | nil => exact absurd rfl hne
  | cons c pattern =>
    have hprefix : (c :: pattern).isPrefixOf (c :: (pattern ++ rest)) = true :=
      List.isPrefixOf_iff_prefix.mpr (List.prefix_append (c :: pattern) rest)
    rw [List.cons_append, strstr, if_pos hprefix]

lemma subghzParseDurations_ok {str rest : List UInt8} {duration : Int}
    (h : strintToInt32 str 10 = .ok (duration, rest)) :
    subghzParseDurations str = subghzClampDuration duration ::
      subghzParseDurations (if rest.head? = some 44 then rest.tail else rest) := by
  rw [subghzParseDurations]
  split
  · rename_i hread
    rw [h] at hread
    cases hread
  · rename_i hread
    rw [h] at hread
    obtain ⟨rfl, rfl⟩ := Prod.mk.inj (Except.ok.inj hread)
    rfl

lemma subghzParseDurations_nil : subghzParseDurations [] = [] := by
  rw [subghzParseDurations]
  rfl

lemma strintToInt32_space (str : List UInt8) : strintToInt32 (32 :: str) 10 = strintToInt32 str 10 := by
  have hskip : (32 :: str).dropWhile (fun c : UInt8 => decide ((9 ≤ c ∧ c ≤ 13) ∨ c = 32)) =
      str.dropWhile fun c => decide ((9 ≤ c ∧ c ≤ 13) ∨ c = 32) := rfl
  rw [strintToInt32, strintToInt32, strintToUint64Internal, strintToUint64Internal, hskip]

/-- The numbers that the worker sends as they are. -/
def Sendable (block : List Int32) : Prop :=
  ∀ n ∈ block, -1000000 ≤ n.toInt ∧ n.toInt ≤ 1000000

lemma subghzParseDurations_numbers (hne : block ≠ []) (hsend : Sendable block) :
    subghzParseDurations (32 :: numbersText block) = block.map Int32.toInt := by
  induction block with
  | nil => exact absurd rfl hne
  | cons n block ih =>
    obtain ⟨hlow, hhigh⟩ := hsend n List.mem_cons_self
    have hclamp : subghzClampDuration n.toInt = n.toInt := if_neg (by omega)
    have hread (rest : List UInt8) (hrest : EndsNumber rest) :
        strintToInt32 (32 :: (integerText n.toInt ++ rest)) 10 = .ok (n.toInt, rest) := by
      rw [strintToInt32_space]
      exact strintToInt32_integerText hrest (by omega) (by omega)
    cases block with
    | nil =>
      have htext : numbersText [n] = integerText n.toInt ++ [] := by simp [numbersText, valueWrites]
      rw [htext, subghzParseDurations_ok (hread [] endsNumber_nil), hclamp]
      exact congrArg _ subghzParseDurations_nil
    | cons m block =>
      have htext : numbersText (n :: m :: block) =
          integerText n.toInt ++ 32 :: numbersText (m :: block) := by
        simp [numbersText, valueWrites, space]
      have hends : EndsNumber (32 :: numbersText (m :: block)) := by
        intro c hc
        obtain rfl := Option.some.inj hc
        decide
      rw [htext, subghzParseDurations_ok (hread _ hends), hclamp, List.map_cons]
      exact congrArg _ (ih (List.cons_ne_nil m block) fun x hx => hsend x (List.mem_cons_of_mem n hx))

lemma subghzDataParse_rawLine (hne : block ≠ []) (hsend : Sendable block) :
    subghzDataParse (furiStringTrim (lineText (rawLine block).bytes)) =
      some (block.map Int32.toInt) := by
  have hzero : 0 ∉ rawDataKey ++ numbersText block := by
    rw [List.mem_append, not_or]
    exact ⟨by decide, notMem_numbersText (by decide)⟩
  have hspace : (rawDataKey ++ numbersText block).dropWhile (fun c => decide (c ≠ 32)) =
      32 :: numbersText block := rfl
  have hfind : strstr rawDataKey (rawDataKey ++ numbersText block) =
      some (rawDataKey ++ numbersText block) := strstr_prefix (by decide) _
  rw [lineText_rawLine, furiStringTrim_rawLine hne, subghzDataParse,
    (cString_eq_self_iff _).mpr hzero]
  change (strstr rawDataKey _).map _ = _
  rw [hfind, Option.map_some, hspace, subghzParseDurations_numbers hne hsend]

/-! ### Samples -/

/-- What the transmitter gets for a sample. -/
def sampleLevel (sample : SubGhzSample) : LevelDuration := .make sample.1 sample.2.toNat

lemma toInt_sampleNumber {sample : SubGhzSample} (h : sample.2 < 1000000) :
    (sampleNumber sample).toInt = if sample.1 then (sample.2.toNat : Int) else -sample.2.toNat := by
  obtain ⟨level, duration⟩ := sample
  have hlt : duration.toNat < 1000000 := UInt32.lt_iff_toNat_lt.mp h
  have hpos : (duration.toInt32).toInt = duration.toNat := by
    have htoInt : (duration.toInt32).toInt = duration.toBitVec.toInt := rfl
    rw [htoInt, BitVec.toInt_eq_toNat_of_lt (by rw [UInt32.toNat_toBitVec]; omega),
      UInt32.toNat_toBitVec]
  have hneg : ((-duration).toInt32).toInt = -duration.toNat := by
    have htoInt : ((-duration).toInt32).toInt = (-duration.toBitVec).toInt := rfl
    rw [htoInt, BitVec.toInt_eq_toNat_cond, BitVec.toNat_neg, UInt32.toNat_toBitVec]
    split_ifs <;> omega
  cases level with
  | true => exact hpos
  | false => exact hneg

lemma levelDuration_sampleNumber {sample : SubGhzSample} (h : 50 < sample.2 ∧ sample.2 < 1000000) :
    levelDuration (sampleNumber sample).toInt = sampleLevel sample := by
  have hlow : 50 < sample.2.toNat := UInt32.lt_iff_toNat_lt.mp h.1
  rw [levelDuration, toInt_sampleNumber h.2, sampleLevel]
  cases hlevel : sample.1 with
  | true =>
    rw [if_pos rfl, if_neg (by omega), if_pos (by omega)]
    rfl
  | false =>
    rw [if_neg Bool.false_ne_true, if_pos (by omega), Int.natAbs_neg]
    rfl

lemma sendable_of_cut {blocks : List (List Int32)} {samples : List SubGhzSample}
    (h : Cut blocks ((keptSamples false samples).map sampleNumber)) (hblock : block ∈ blocks) :
    Sendable block := by
  intro n hn
  have hmem : n ∈ (keptSamples false samples).map sampleNumber := by
    rw [← h.flatten]
    exact List.mem_flatten.mpr ⟨block, hblock, hn⟩
  obtain ⟨sample, hsample, rfl⟩ := List.mem_map.mp hmem
  have hbounds := keptSamples_bounds hsample
  have hhigh : sample.2.toNat < 1000000 := UInt32.lt_iff_toNat_lt.mp hbounds.2
  rw [toInt_sampleNumber hbounds.2]
  split_ifs <;> omega

lemma levels_of_cut {blocks : List (List Int32)} {samples : List SubGhzSample}
    (h : Cut blocks ((keptSamples false samples).map sampleNumber)) :
    blocks.flatten.map (fun n => levelDuration n.toInt) =
      (keptSamples false samples).map sampleLevel := by
  rw [h.flatten, List.map_map]
  exact List.map_congr_left fun sample hsample =>
    levelDuration_sampleNumber (keptSamples_bounds hsample)

end FlipperZero
