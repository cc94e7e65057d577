import FlipperZero.Nfc.MfClassicFileBounds
import Mathlib.Tactic.FinCases
import Mathlib.Tactic.IntervalCases

/-!
# A card file is read back

A byte of a block is known if the mask for its part of the block has the bit: key A, the access bits
and key B of a sector trailer have each their own mask. Saving writes the known bytes as text, and
loading sets the bits of exactly the masks whose bytes are all there. The masks have room for more
sectors and blocks than a small card has, and their bits beyond the card are not saved.
-/

namespace FlipperZero

open Foundation FlipperFormatStream

/-! ### Masks -/

lemma getLsbD_or_shiftLeft_one {w : Nat} (x : BitVec w) (n k : Nat) (h : n < w) :
    (x ||| 1#w <<< n).getLsbD k = (x.getLsbD k || decide (k = n)) := by
  rw [BitVec.getLsbD_or, BitVec.getLsbD_shiftLeft, BitVec.getLsbD_one]
  by_cases hk : k = n
  · subst hk
    simp [h]
    omega
  · rcases Nat.lt_or_ge k n with hlt | hge
    · simp [hlt, hk]
    · have hne : k - n ≠ 0 := by omega
      simp [hne, hk]

lemma mfClassicMaskWord_injective {b n : BitVec 8} (hword : mfClassicMaskWord b = mfClassicMaskWord n)
    (hbit : b.toNat % 32 = n.toNat % 32) : b = n := by
  have hdiv := congrArg Fin.val hword
  simp only [mfClassicMaskWord] at hdiv
  exact BitVec.eq_of_toNat_eq (by omega)

lemma mfClassicGetSectorTrailerNumBySector_sector {n : BitVec 8}
    (h : mfClassicIsSectorTrailer n = true) :
    mfClassicGetSectorTrailerNumBySector (mfClassicGetSectorByBlock n) = n := by
  have hall : ∀ n : BitVec 8, mfClassicIsSectorTrailer n = true →
      mfClassicGetSectorTrailerNumBySector (mfClassicGetSectorByBlock n) = n := by
    decide +kernel
  exact hall n h

lemma mfClassicGetSectorByBlock_lt (n : BitVec 8) : mfClassicGetSectorByBlock n < 64 := by
  have hall : ∀ n : BitVec 8, mfClassicGetSectorByBlock n < 64 := by decide +kernel
  exact hall n

/-- The byte of a sector trailer belongs to the key. -/
def MfClassicKeyType.Covers (i : Fin 16) : MfClassicKeyType → Prop
  | .a => i.val < 6
  | .b => 10 ≤ i.val

/-- The last byte of the key in a sector trailer. -/
def MfClassicKeyType.last : MfClassicKeyType → Nat
  | .a => 5
  | .b => 15

instance (i : Fin 16) : ∀ keyType : MfClassicKeyType, Decidable (keyType.Covers i)
  | .a => inferInstanceAs (Decidable (i.val < 6))
  | .b => inferInstanceAs (Decidable (10 ≤ i.val))

namespace MfClassicFileData

variable (data saved : MfClassicFileData)

@[simp] lemma isKeyFound_setKeyFound {sectorNum : Nat} (h : sectorNum < 64)
    (keyType keyType' : MfClassicKeyType) (key : BitVec 64) (s : Nat) :
    (data.setKeyFound sectorNum keyType key).isKeyFound s keyType' =
      (data.isKeyFound s keyType' || decide (s = sectorNum ∧ keyType' = keyType)) := by
  cases keyType <;> cases keyType' <;>
    simp [setKeyFound, isKeyFound, getLsbD_or_shiftLeft_one _ _ _ h]

@[simp] lemma isBlockRead_setKeyFound (sectorNum : Nat) (keyType : MfClassicKeyType)
    (key : BitVec 64) (b : BitVec 8) :
    (data.setKeyFound sectorNum keyType key).isBlockRead b = data.isBlockRead b := by
  cases keyType <;> rfl

@[simp] lemma type_setKeyFound (sectorNum : Nat) (keyType : MfClassicKeyType) (key : BitVec 64) :
    (data.setKeyFound sectorNum keyType key).type = data.type := by
  cases keyType <;> rfl

@[simp] lemma isKeyFound_setBlockRead (n : BitVec 8) (block : MfClassicBlock) (s : Nat)
    (keyType : MfClassicKeyType) :
    (data.setBlockRead n block).isKeyFound s keyType = data.isKeyFound s keyType := by
  cases keyType <;> rfl

@[simp] lemma type_setBlockRead (n : BitVec 8) (block : MfClassicBlock) :
    (data.setBlockRead n block).type = data.type := rfl

@[simp] lemma isBlockRead_setBlockRead (n : BitVec 8) (block : MfClassicBlock) (b : BitVec 8) :
    (data.setBlockRead n block).isBlockRead b = (data.isBlockRead b || decide (b = n)) := by
  by_cases hword : mfClassicMaskWord b = mfClassicMaskWord n
  · simp only [isBlockRead, setBlockRead, hword, Function.update_self]
    rw [getLsbD_or_shiftLeft_one _ _ _ (Nat.mod_lt _ (by decide))]
    congr 1
    rw [decide_eq_decide]
    exact ⟨mfClassicMaskWord_injective hword, fun h => h ▸ rfl⟩
  · have hne : b ≠ n := fun h => hword (h ▸ rfl)
    simp [isBlockRead, setBlockRead, Function.update_of_ne hword, hne]

lemma block_setKeyFound (sectorNum : Nat) (keyType : MfClassicKeyType) (key : BitVec 64)
    (b : BitVec 8) (i : Fin 16) :
    (data.setKeyFound sectorNum keyType key).block b i =
      if b = mfClassicGetSectorTrailerNumBySector sectorNum ∧ keyType.Covers i then
        key.extractLsb' (8 * (keyType.last - i.val)) 8
      else data.block b i := by
  by_cases hb : b = mfClassicGetSectorTrailerNumBySector sectorNum
  · subst hb
    cases keyType <;>
      simp [setKeyFound, MfClassicKeyType.Covers, MfClassicKeyType.last,
        MfClassicData.getSectorTrailerBySector]
  · cases keyType <;> simp [setKeyFound, hb]

lemma block_setBlockRead (n : BitVec 8) (block : MfClassicBlock) (b : BitVec 8) (i : Fin 16) :
    (data.setBlockRead n block).block b i =
      if b = n ∧ (mfClassicIsSectorTrailer n = true → 6 ≤ i.val ∧ i.val < 10) then block i
      else data.block b i := by
  by_cases hb : b = n
  · subst hb
    by_cases hi : 6 ≤ i.val ∧ i.val < 10
    · simp [setBlockRead, hi]
    · cases h : mfClassicIsSectorTrailer b <;> simp [setBlockRead, hi, h]
  · simp [setBlockRead, hb]

/-- The byte of a block is known under the masks. -/
def isKnown (blockNum : BitVec 8) (i : Fin 16) : Bool :=
  if mfClassicIsSectorTrailer blockNum then
    if i.val < 6 then data.isKeyFound (mfClassicGetSectorByBlock blockNum) .a
    else if i.val < 10 then data.isBlockRead blockNum
    else data.isKeyFound (mfClassicGetSectorByBlock blockNum) .b
  else data.isBlockRead blockNum

end MfClassicFileData

/-! ### The text of a block -/

/-- Sixteen pairs of characters with a space behind each. -/
def pairsText (hi low : Fin 16 → UInt8) : List UInt8 :=
  (List.finRange 16).flatMap fun i => [hi i, low i, space]

variable {hi low : Fin 16 → UInt8}

lemma furiStringTrim_pairsText (hhi : furiStringIsTrimmed (hi 0) = false)
    (hlow : furiStringIsTrimmed (low 15) = false) :
    furiStringTrim (pairsText hi low) = (pairsText hi low).take 47 := by
  have hfirst : (pairsText hi low).dropWhile furiStringIsTrimmed = pairsText hi low := by
    rw [List.dropWhile_eq_self_iff]
    intro _
    change ¬furiStringIsTrimmed (hi 0) = true
    rw [hhi]
    exact Bool.false_ne_true
  have hlast : pairsText hi low = (pairsText hi low).take 46 ++ [low 15] ++ [space] := rfl
  rw [furiStringTrim, hfirst, hlast, List.rdropWhile_concat, if_pos (by decide),
    List.rdropWhile_concat, if_neg (by rw [hlow]; exact Bool.false_ne_true)]
  rfl

lemma getElem?_pairsText (i : Fin 16) :
    ((pairsText hi low).take 47)[3 * i.val]? = some (hi i) ∧
      ((pairsText hi low).take 47)[3 * i.val + 1]? = some (low i) := by
  fin_cases i <;> exact ⟨rfl, rfl⟩

/-! ### Scanning the text -/

/-- What the scan of the text of a block should find: the known bytes, and a bit for every other
one. -/
structure MfClassicFileData.Scanned (saved : MfClassicFileData) (n : BitVec 8)
    (s : MfClassicBlockScan) : Prop where
  block : ∀ i, saved.isKnown n i = true → s.block i = saved.block n i
  unknown : ∀ i : Fin 16, s.unknown.getLsbD i = !saved.isKnown n i

/-- One byte: it is stored if the characters are a number, else its bit is set. -/
lemma mfClassicScanByte_eq {str : List UInt8} {i : Fin 16} {c d : UInt8}
    (hc : furiStringGetChar str (3 * i.val) = some c)
    (hd : furiStringGetChar str (3 * i.val + 1) = some d) (s : MfClassicBlockScan) :
    ∃ s', mfClassicScanByte str s i = some s' ∧
      (∀ v ∈ hexCharToUint8 c d, s'.block i = BitVec.ofNat 8 v) ∧
      (∀ k, k ≠ i → s'.block k = s.block k) ∧
      ∀ k : Fin 16, s'.unknown.getLsbD k =
        (s.unknown.getLsbD k || decide (k = i ∧ hexCharToUint8 c d = none)) := by
  cases hbyte : hexCharToUint8 c d with
  | none =>
    refine ⟨⟨s.block, s.unknown ||| 1#16 <<< i.val⟩, by simp [mfClassicScanByte, hc, hd, hbyte],
      by simp, fun k _ => rfl, fun k => ?_⟩
    rw [getLsbD_or_shiftLeft_one _ _ _ i.isLt]
    simp [Fin.ext_iff]
  | some v =>
    refine ⟨⟨Function.update s.block i (BitVec.ofNat 8 v), s.unknown⟩,
      by simp [mfClassicScanByte, hc, hd, hbyte], ?_, fun k hk => Function.update_of_ne hk _ _,
      by simp⟩
    simp

lemma foldlM_mfClassicScanByte {str : List UInt8} {byte : Fin 16 → Option Nat}
    (hstr : ∀ i : Fin 16, ∃ c d, furiStringGetChar str (3 * i.val) = some c ∧
      furiStringGetChar str (3 * i.val + 1) = some d ∧ hexCharToUint8 c d = byte i)
    (bytes : List (Fin 16)) (s : MfClassicBlockScan) :
    ∃ s', bytes.foldlM (mfClassicScanByte str) s = some s' ∧
      (∀ i ∈ bytes, ∀ v ∈ byte i, s'.block i = BitVec.ofNat 8 v) ∧
      (∀ i, i ∉ bytes → s'.block i = s.block i) ∧
      ∀ i : Fin 16, s'.unknown.getLsbD i =
        (s.unknown.getLsbD i || decide (i ∈ bytes ∧ byte i = none)) := by
  induction bytes generalizing s with
  | nil => exact ⟨s, rfl, by simp, by simp, by simp⟩
  | cons j bytes ih =>
    obtain ⟨c, d, hc, hd, hbyte⟩ := hstr j
    obtain ⟨s₁, hstep, hvalue, hother, hunknown⟩ := mfClassicScanByte_eq hc hd s
    obtain ⟨s', hfold, hvalue', hother', hunknown'⟩ := ih s₁
    rw [hbyte] at hvalue hunknown
    refine ⟨s', ?_, fun i hi v hv => ?_, fun i hi => ?_, fun i => ?_⟩
    · rw [List.foldlM_cons, hstep]
      exact hfold
    · by_cases hmem : i ∈ bytes
      · exact hvalue' i hmem v hv
      · obtain rfl : i = j := (List.mem_cons.mp hi).resolve_right hmem
        rw [hother' i hmem, hvalue v hv]
    · obtain ⟨hne, hmem⟩ := not_or.mp (mt List.mem_cons.mpr hi)
      rw [hother' i hmem, hother i hne]
    · rw [hunknown' i, hunknown i, Bool.or_assoc, ← Bool.decide_or]
      congr 2
      by_cases hij : i = j
      · subst hij
        simp
      · simp [hij]

namespace MfClassicFileData

variable (saved : MfClassicFileData) (n : BitVec 8)

/-- The characters that stand for a byte. -/
def pair (i : Fin 16) : UInt8 × UInt8 :=
  if saved.isKnown n i then
    (digitText ((saved.block n i).toNat / 16), digitText ((saved.block n i).toNat % 16))
  else (63, 63)

lemma hexCharToUint8_pair (i : Fin 16) :
    hexCharToUint8 (saved.pair n i).1 (saved.pair n i).2 =
      if saved.isKnown n i then some (saved.block n i).toNat else none := by
  rw [pair]
  split_ifs
  · exact hexCharToUint8_digitText (saved.block n i).isLt
  · rfl

lemma plain_pair (i : Fin 16) (c : UInt8) (hc : c = (saved.pair n i).1 ∨ c = (saved.pair n i).2) :
    furiStringIsTrimmed c = false ∧ c ≠ eoln ∧ c ≠ eolr ∧ c ≠ 0 := by
  have hall : ∀ d ∈ List.range 16, furiStringIsTrimmed (digitText d) = false ∧
      digitText d ≠ eoln ∧ digitText d ≠ eolr ∧ digitText d ≠ 0 := by decide
  have hlt := (saved.block n i).isLt
  rw [pair] at hc
  split_ifs at hc
  · rcases hc with rfl | rfl
    · exact hall _ (List.mem_range.mpr (by omega))
    · exact hall _ (List.mem_range.mpr (by omega))
  · rcases hc with rfl | rfl
    · decide
    · decide

lemma mfClassicSetBlockStr_eq :
    mfClassicSetBlockStr saved n =
      (pairsText (fun i => (saved.pair n i).1) fun i => (saved.pair n i).2).take 47 := by
  rw [← furiStringTrim_pairsText (plain_pair saved n 0 _ (.inl rfl)).1
    (plain_pair saved n 15 _ (.inr rfl)).1, mfClassicSetBlockStr]
  congr 1
  have hhex (b : BitVec 8) : hexText 2 b.toNat = [digitText (b.toNat / 16), digitText (b.toNat % 16)] := by
    have hhigh : b.toNat / 16 % 16 = b.toNat / 16 := Nat.mod_eq_of_lt (by have := b.isLt; omega)
    simp [hexText, hhigh]
  have htext (known : Bool) (block : MfClassicBlock) (bytes : List (Fin 16))
      (hknown : ∀ i ∈ bytes, saved.isKnown n i = known) (hblock : block = saved.block n) :
      mfClassicBytesText known block bytes =
        bytes.flatMap fun i => [(saved.pair n i).1, (saved.pair n i).2, space] := by
    refine List.flatMap_congr fun i hi => ?_
    rw [pair, hknown i hi, hblock]
    cases known with
    | false => rfl
    | true => simp [hhex]
  cases htrailer : mfClassicIsSectorTrailer n with
  | true =>
    have hblock : saved.getSectorTrailerBySector (mfClassicGetSectorByBlock n) = saved.block n := by
      rw [MfClassicData.getSectorTrailerBySector,
        mfClassicGetSectorTrailerNumBySector_sector htrailer]
    rw [if_pos rfl]
    dsimp only
    rw [htext _ _ _ (fun i hi => ?_) hblock, htext _ _ _ (fun i hi => ?_) hblock,
      htext _ _ _ (fun i hi => ?_) hblock]
    · rfl
    all_goals
      fin_cases hi
      all_goals simp [isKnown, htrailer]
  | false =>
    rw [if_neg Bool.false_ne_true, htext _ _ _ (fun i _ => ?_) rfl]
    · rfl
    · simp [isKnown, htrailer]

lemma mfClassicScanBlock_setBlockStr :
    ∃ s, mfClassicScanBlock (mfClassicSetBlockStr saved n) = some s ∧ saved.Scanned n s := by
  have hstr (i : Fin 16) : ∃ c d,
      furiStringGetChar (mfClassicSetBlockStr saved n) (3 * i.val) = some c ∧
        furiStringGetChar (mfClassicSetBlockStr saved n) (3 * i.val + 1) = some d ∧
          hexCharToUint8 c d =
            if saved.isKnown n i then some (saved.block n i).toNat else none := by
    rw [mfClassicSetBlockStr_eq]
    exact ⟨_, _, (getElem?_pairsText i).1, (getElem?_pairsText i).2, hexCharToUint8_pair saved n i⟩
  obtain ⟨s, hscan, hvalue, -, hunknown⟩ :=
    foldlM_mfClassicScanByte hstr (List.finRange 16) ⟨fun _ => 0, 0⟩
  refine ⟨s, hscan, fun i hi => ?_, fun i => ?_⟩
  · rw [hvalue i (List.mem_finRange i) _ (by rw [if_pos hi]; rfl), BitVec.ofNat_toNat,
      BitVec.setWidth_eq]
  · rw [hunknown i]
    cases saved.isKnown n i with
    | false => simp
    | true => simp

end MfClassicFileData

/-! ### Storing a block -/

/-- The bits of the bytes that are not known, by what is known of a sector trailer. -/
def trailerUnknown (a read b : Bool) : BitVec 16 :=
  (if a then 0 else 0x3f) ||| (if read then 0 else 0x3c0) ||| (if b then 0 else 0xfc00)

lemma trailerUnknown_tests : ∀ a read b : Bool,
    (trailerUnknown a read b = 0xffff ↔ a = false ∧ read = false ∧ b = false) ∧
      (trailerUnknown a read b &&& 0x003f = 0 ↔ a = true) ∧
      (trailerUnknown a read b &&& 0x03c0 = 0 ↔ read = true) ∧
      (trailerUnknown a read b &&& 0xfc00 = 0 ↔ b = true) := by
  decide

/-- Data with the blocks of a list loaded from other data. -/
structure MfClassicFileData.Loaded (saved : MfClassicFileData) (blocks : List (BitVec 8))
    (data data' : MfClassicFileData) : Prop where
  type : data'.type = data.type
  keyFound : ∀ s keyType, data'.isKeyFound s keyType = true ↔ data.isKeyFound s keyType = true ∨
    (∃ n ∈ blocks, mfClassicIsSectorTrailer n = true ∧ mfClassicGetSectorByBlock n = s) ∧
      saved.isKeyFound s keyType = true
  blockRead : ∀ b, data'.isBlockRead b = true ↔ data.isBlockRead b = true ∨
    b ∈ blocks ∧ saved.isBlockRead b = true
  block : ∀ b i, data'.block b i =
    if b ∈ blocks ∧ saved.isKnown b i = true then saved.block b i else data.block b i

namespace MfClassicFileData

variable {saved data data' data'' : MfClassicFileData} {n : BitVec 8} {s : MfClassicBlockScan}

lemma Loaded.refl : saved.Loaded [] data data where
  type := rfl
  keyFound := by simp
  blockRead := by simp
  block := by simp

lemma Loaded.append {blocks blocks' : List (BitVec 8)} (h : saved.Loaded blocks data data')
    (h' : saved.Loaded blocks' data' data'') : saved.Loaded (blocks ++ blocks') data data'' where
  type := h'.type.trans h.type
  keyFound t keyType := by
    rw [h'.keyFound, h.keyFound]
    simp only [List.mem_append, or_and_right, exists_or, or_assoc]
  blockRead b := by
    rw [h'.blockRead, h.blockRead]
    simp only [List.mem_append, or_and_right, or_assoc]
  block b i := by
    rw [h'.block, h.block]
    simp only [List.mem_append]
    by_cases hb : b ∈ blocks <;> by_cases hb' : b ∈ blocks' <;>
      by_cases hknown : saved.isKnown b i = true <;> simp [hb, hb', hknown]

/-- The bytes of a key that the parser puts together and `mf_classic_set_key_found` takes apart. -/
lemma extract_key (b₀ b₁ b₂ b₃ b₄ b₅ : BitVec 8) (k : Nat) (hk : k < 6) :
    ((b₀ ++ b₁ ++ b₂ ++ b₃ ++ b₄ ++ b₅).setWidth 64).extractLsb' (8 * (5 - k)) 8 =
      [b₀, b₁, b₂, b₃, b₄, b₅].getD k 0 := by
  refine BitVec.eq_of_getLsbD_eq fun j hj => ?_
  have hcases : k = 0 ∨ k = 1 ∨ k = 2 ∨ k = 3 ∨ k = 4 ∨ k = 5 := by omega
  rcases hcases with rfl | rfl | rfl | rfl | rfl | rfl
  all_goals
    simp only [BitVec.getLsbD_extractLsb', BitVec.getLsbD_setWidth, BitVec.getLsbD_append, hj,
      List.getD_cons_zero, List.getD_cons_succ, decide_true, Bool.true_and]
    split_ifs <;> first | omega | (rw [decide_eq_true (by omega), Bool.true_and]; congr 1; omega)

lemma Scanned.unknown_trailer (h : saved.Scanned n s) (htrailer : mfClassicIsSectorTrailer n = true) :
    s.unknown = trailerUnknown (saved.isKeyFound (mfClassicGetSectorByBlock n) .a)
      (saved.isBlockRead n) (saved.isKeyFound (mfClassicGetSectorByBlock n) .b) := by
  have hbits : ∀ (a read b : Bool) (i : Fin 16), (trailerUnknown a read b).getLsbD i =
      !(if i.val < 6 then a else if i.val < 10 then read else b) := by decide
  refine BitVec.eq_of_getLsbD_eq fun i hi => ?_
  have hi' := h.unknown ⟨i, hi⟩
  rw [isKnown, if_pos htrailer] at hi'
  exact hi'.trans (hbits _ _ _ ⟨i, hi⟩).symm

attribute [local instance] neZero_blockSize in
/-- The number of a key in a sector trailer. -/
def keyNum (block : MfClassicBlock) : MfClassicKeyType → BitVec 64
  | .a => (block 0 ++ block 1 ++ block 2 ++ block 3 ++ block 4 ++ block 5).setWidth 64
  | .b => (block 10 ++ block 11 ++ block 12 ++ block 13 ++ block 14 ++ block 15).setWidth 64

lemma extract_keyNum (block : MfClassicBlock) {keyType : MfClassicKeyType} {i : Fin 16}
    (hi : keyType.Covers i) :
    (keyNum block keyType).extractLsb' (8 * (keyType.last - i.val)) 8 = block i := by
  cases keyType with
  | a =>
    have hlt : i.val < 6 := hi
    rw [keyNum, MfClassicKeyType.last, extract_key _ _ _ _ _ _ _ hlt]
    fin_cases i <;> first | rfl | exact absurd hlt (by decide)
  | b =>
    have hle : 10 ≤ i.val := hi
    have hlast : MfClassicKeyType.b.last - i.val = 5 - (i.val - 10) := by
      rw [MfClassicKeyType.last]
      omega
    rw [keyNum, hlast, extract_key _ _ _ _ _ _ _ (by omega)]
    fin_cases i <;> first | rfl | exact absurd hle (by decide)

/-- The step of the parser that stores a key. -/
def storeKey (data : MfClassicFileData) (n : BitVec 8) (block : MfClassicBlock) (found : Bool)
    (keyType : MfClassicKeyType) : MfClassicFileData :=
  if found then data.setKeyFound (mfClassicGetSectorByBlock n) keyType (keyNum block keyType)
  else data

/-- The step of the parser that stores a block or its access bits. -/
def storeRead (data : MfClassicFileData) (n : BitVec 8) (block : MfClassicBlock) (read : Bool) :
    MfClassicFileData :=
  if read then data.setBlockRead n block else data

section Store

variable (data : MfClassicFileData) (n : BitVec 8) (block : MfClassicBlock) (found : Bool)
  (keyType : MfClassicKeyType)

@[simp] lemma type_storeKey : (data.storeKey n block found keyType).type = data.type := by
  cases found <;> simp [storeKey]

@[simp] lemma isBlockRead_storeKey (b : BitVec 8) :
    (data.storeKey n block found keyType).isBlockRead b = data.isBlockRead b := by
  cases found <;> simp [storeKey]

@[simp] lemma isKeyFound_storeKey (t : Nat) (keyType' : MfClassicKeyType) :
    (data.storeKey n block found keyType).isKeyFound t keyType' =
      (data.isKeyFound t keyType' ||
        found && decide (t = mfClassicGetSectorByBlock n ∧ keyType' = keyType)) := by
  cases found <;> simp [storeKey, mfClassicGetSectorByBlock_lt n]

lemma block_storeKey (htrailer : mfClassicIsSectorTrailer n = true) (b : BitVec 8) (i : Fin 16) :
    (data.storeKey n block found keyType).block b i =
      if b = n ∧ keyType.Covers i ∧ found = true then block i else data.block b i := by
  cases found with
  | false => simp [storeKey]
  | true =>
    rw [storeKey, if_pos rfl, block_setKeyFound,
      mfClassicGetSectorTrailerNumBySector_sector htrailer]
    by_cases hi : keyType.Covers i
    · simp [hi, extract_keyNum block hi]
    · simp [hi]

@[simp] lemma type_storeRead : (data.storeRead n block found).type = data.type := by
  cases found <;> simp [storeRead]

@[simp] lemma isKeyFound_storeRead (t : Nat) :
    (data.storeRead n block found).isKeyFound t keyType = data.isKeyFound t keyType := by
  cases found <;> simp [storeRead]

@[simp] lemma isBlockRead_storeRead (b : BitVec 8) :
    (data.storeRead n block found).isBlockRead b =
      (data.isBlockRead b || found && decide (b = n)) := by
  cases found <;> simp [storeRead]

lemma block_storeRead (b : BitVec 8) (i : Fin 16) :
    (data.storeRead n block found).block b i =
      if b = n ∧ (mfClassicIsSectorTrailer n = true → 6 ≤ i.val ∧ i.val < 10) ∧ found = true then
        block i
      else data.block b i := by
  cases found with
  | false => simp [storeRead]
  | true => simp [storeRead, block_setBlockRead]

end Store

lemma Scanned.store_trailer (h : saved.Scanned n s) (htrailer : mfClassicIsSectorTrailer n = true)
    (data : MfClassicFileData) :
    mfClassicStoreBlock s data n =
      ((data.storeKey n s.block (saved.isKeyFound (mfClassicGetSectorByBlock n) .a) .a).storeRead n
        s.block (saved.isBlockRead n)).storeKey n s.block
          (saved.isKeyFound (mfClassicGetSectorByBlock n) .b) .b := by
  have htests := trailerUnknown_tests (saved.isKeyFound (mfClassicGetSectorByBlock n) .a)
    (saved.isBlockRead n) (saved.isKeyFound (mfClassicGetSectorByBlock n) .b)
  rw [← h.unknown_trailer htrailer] at htests
  obtain ⟨hnone, ha, hread, hb⟩ := htests
  simp only [mfClassicStoreBlock, htrailer, if_true, hnone, ha, hread, hb, storeKey, storeRead,
    keyNum]
  split_ifs <;> simp_all

lemma Scanned.store_data (h : saved.Scanned n s) (hdata : mfClassicIsSectorTrailer n = false)
    (data : MfClassicFileData) :
    mfClassicStoreBlock s data n = data.storeRead n s.block (saved.isBlockRead n) := by
  have hunknown : s.unknown = if saved.isBlockRead n then 0 else 0xffff := by
    have hbits : ∀ (read : Bool) (i : Fin 16),
        (if read then 0 else 0xffff : BitVec 16).getLsbD i = !read := by decide
    refine BitVec.eq_of_getLsbD_eq fun i hi => ?_
    have hi' := h.unknown ⟨i, hi⟩
    rw [isKnown, hdata, if_neg Bool.false_ne_true] at hi'
    exact hi'.trans (hbits _ ⟨i, hi⟩).symm
  rw [mfClassicStoreBlock, hunknown, storeRead]
  cases saved.isBlockRead n with
  | false => simp
  | true => simp [hdata]

lemma Scanned.loaded (h : saved.Scanned n s) (data : MfClassicFileData) :
    saved.Loaded [n] data (mfClassicStoreBlock s data n) := by
  cases htrailer : mfClassicIsSectorTrailer n with
  | false =>
    rw [h.store_data htrailer]
    refine ⟨type_storeRead _ _ _ _, fun t keyType => ?_, fun b => ?_, fun b i => ?_⟩
    · simp [htrailer]
    · simp only [isBlockRead_storeRead, Bool.or_eq_true, Bool.and_eq_true, decide_eq_true_iff,
        List.mem_singleton]
      constructor
      · rintro (hb | ⟨hn, rfl⟩)
        · exact .inl hb
        · exact .inr ⟨rfl, hn⟩
      · rintro (hb | ⟨rfl, hn⟩)
        · exact .inl hb
        · exact .inr ⟨hn, rfl⟩
    · rw [block_storeRead]
      by_cases hb : b = n
      · subst hb
        have hknown : saved.isKnown b i = saved.isBlockRead b := by simp [isKnown, htrailer]
        have hblock := h.block i
        rw [hknown] at hblock
        simp only [true_and, htrailer, Bool.false_eq_true, false_implies, hknown,
          List.mem_singleton]
        split_ifs with hread
        · exact hblock hread
        · rfl
      · simp [hb]
  | true =>
    rw [h.store_trailer htrailer]
    refine ⟨by simp, fun t keyType => ?_, fun b => ?_, fun b i => ?_⟩
    · simp only [isKeyFound_storeKey, isKeyFound_storeRead, List.mem_singleton, exists_eq_left,
        htrailer, true_and]
      by_cases ht : mfClassicGetSectorByBlock n = t
      · subst ht
        cases keyType <;> simp
      · have hne : t ≠ mfClassicGetSectorByBlock n := fun heq => ht heq.symm
        simp [ht, hne]
    · simp only [isBlockRead_storeKey, isBlockRead_storeRead, List.mem_singleton]
      by_cases hb : b = n
      · subst hb
        simp
      · simp [hb]
    · rw [block_storeKey _ _ _ _ _ htrailer, block_storeRead, block_storeKey _ _ _ _ _ htrailer]
      by_cases hb : b = n
      · subst hb
        have hblock := h.block i
        simp only [isKnown, htrailer, if_true] at hblock
        simp only [true_and, MfClassicKeyType.Covers, htrailer, true_implies, List.mem_singleton,
          isKnown, if_true]
        by_cases ha : i.val < 6
        · simp only [ha, if_true] at hblock ⊢
          rw [if_neg (by omega), if_neg (by omega)]
          split_ifs with hfound
          · exact hblock hfound.2
          · simp_all
          · simp_all
          · rfl
        · simp only [ha, if_false, false_and] at hblock ⊢
          by_cases hb' : i.val < 10
          · simp only [hb', if_true, show ¬10 ≤ i.val by omega, show 6 ≤ i.val by omega, false_and,
              true_and, if_false] at hblock ⊢
            split_ifs with hread
            · exact hblock hread
            · rfl
          · simp only [hb', if_false, show 10 ≤ i.val by omega, false_and, and_false,
              true_and] at hblock ⊢
            split_ifs with hread
            · exact hblock hread
            · rfl
      · simp [hb]

end MfClassicFileData

/-! ### Loading a saved file -/

variable {saved data : MfClassicFileData}

lemma mfClassicParseBlock_saved (saved data : MfClassicFileData) (n : BitVec 8) :
    ∃ data', mfClassicParseBlock (mfClassicSetBlockStr saved n) data n = some data' ∧
      saved.Loaded [n] data data' := by
  obtain ⟨s, hscan, hscanned⟩ := saved.mfClassicScanBlock_setBlockStr n
  have htrim : furiStringTrim (mfClassicSetBlockStr saved n) = mfClassicSetBlockStr saved n := by
    rw [mfClassicSetBlockStr, furiStringTrim_trim]
  exact ⟨_, by rw [mfClassicParseBlock, htrim, htrim, hscan]; rfl, hscanned.loaded data⟩

lemma valid_mfClassicBlockItem (saved : MfClassicFileData) {i : Nat} (hi : i < 256) :
    (mfClassicBlockItem saved i).Valid := by
  have hkeys : ∀ i ∈ List.range 256, ValidKey (mfClassicBlockKey i) := by decide +kernel
  refine ⟨hkeys i (List.mem_range.mpr hi), ?_⟩
  set n := BitVec.ofNat 8 i
  have hchars : ∀ c ∈ mfClassicSetBlockStr saved n, c ≠ eoln ∧ c ≠ eolr ∧ c ≠ 0 := by
    intro c hc
    rw [MfClassicFileData.mfClassicSetBlockStr_eq] at hc
    obtain ⟨k, -, hk⟩ := List.mem_flatMap.mp (List.mem_of_mem_take hc)
    have hpair := saved.plain_pair n k c
    simp only [List.mem_cons, List.not_mem_nil, or_false] at hk
    rcases hk with hk | hk | rfl
    · exact (hpair (.inl hk)).2
    · exact (hpair (.inr hk)).2
    · decide
  refine ⟨fun heq => ?_, fun h => (hchars _ h).1 rfl, fun h => (hchars _ h).2.1 rfl,
    fun h => (hchars _ h).2.2 rfl⟩
  have hlen := congrArg List.length heq
  rw [MfClassicFileData.mfClassicSetBlockStr_eq] at hlen
  exact absurd hlen (by simp [pairsText])

lemma mfClassicLoadBlocks_saved (strictMode : Bool) (rounds : Nat) (blocks : List Nat) :
    ∀ {data : MfClassicFileData} {ff : File}, (∀ i ∈ blocks, i < 256) →
      Ahead (blocks.map (mfClassicBlockItem saved)) ff →
        ∃ data' ff', mfClassicLoadBlocks (rounds + 1) strictMode blocks data ff =
          some (.ended true data' ff') ∧
            saved.Loaded (blocks.map (BitVec.ofNat 8)) data data' := by
  induction blocks with
  | nil => exact fun _ _ => ⟨_, _, rfl, .refl⟩
  | cons i blocks ih =>
    intro data ff hlt hahead
    obtain ⟨ff₁, hread, hahead₁⟩ :=
      hahead.str (valid_mfClassicBlockItem saved (hlt i List.mem_cons_self)) strictMode rounds
    obtain ⟨data₁, hparse, hloaded₁⟩ := mfClassicParseBlock_saved saved data (BitVec.ofNat 8 i)
    obtain ⟨data', ff', hblocks, hloaded⟩ :=
      @ih data₁ ff₁ (fun k hk => hlt k (List.mem_cons_of_mem i hk)) hahead₁
    refine ⟨data', ff', ?_, hloaded₁.append hloaded⟩
    rw [mfClassicLoadBlocks, hread]
    simp only [Option.bind_some, if_true, hparse, hblocks]

lemma mfClassicLoadHead_saved (strictMode : Bool) (rounds version : Nat)
    (data : MfClassicFileData) {ff : File} (hahead : Ahead (mfClassicSaveItems saved) ff) :
    ∃ atqa sak ff', mfClassicLoadHead (rounds + 1) strictMode version data ff =
      some (true, { data with type := saved.type, atqa, sak }, false, ff') ∧
        Ahead ((List.range (mfClassicGetTotalBlockNum saved.type)).map (mfClassicBlockItem saved))
          ff' := by
  have hname : ∀ type : MfClassicType, mfClassicTypeOfName (mfClassicTypeName type) = some type ∧
      (mfClassicTypeName type ≠ [] ∧ eoln ∉ mfClassicTypeName type ∧
        eolr ∉ mfClassicTypeName type ∧ 0 ∉ mfClassicTypeName type) := by
    rintro (_ | _ | _) <;> decide
  have hatqaKey : ValidKey iso14443AtqaKey := by decide
  have hsakKey : ValidKey iso14443SakKey := by decide
  have htypeKey : ValidKey mfClassicTypeKey := by decide
  obtain ⟨atqa, ff₁, hatqa, -, hahead⟩ :=
    (hahead.comment (by decide)).hex ⟨hatqaKey, List.cons_ne_nil _ _, (by decide : 2 < 65536)⟩ strictMode rounds
  obtain ⟨sak, ff₂, hsak, -, hahead⟩ :=
    hahead.hex ⟨hsakKey, List.cons_ne_nil _ _, Nat.one_lt_ofNat⟩ strictMode rounds
  obtain ⟨ff₃, htype, hahead⟩ :=
    (hahead.comment (by decide)).str ⟨htypeKey, (hname saved.type).2⟩ strictMode rounds
  obtain ⟨versions, ff₄, hversion, hvalue, hahead⟩ :=
    hahead.uint32 ⟨by decide, List.cons_ne_nil _ _, Nat.one_lt_ofNat⟩ strictMode rounds
  -- the version is not below the current one
  obtain ⟨v, rfl, hv⟩ : ∃ v, versions = [v] ∧ UInt32.ofNat v = 2 := by
    obtain ⟨v, rest, rfl, hv, hrest⟩ := List.map_eq_cons_iff.mp hvalue
    exact ⟨v, by rw [List.map_eq_nil_iff.mp hrest], hv⟩
  have hnew : ¬v < 2 := by
    intro hlt
    interval_cases v <;> exact absurd hv (by decide)
  have hload : mfClassicLoadVersion (rounds + 1) strictMode ff₃ = some (some false, ff₄) := by
    have hread : readValueLine scanUint32 (rounds + 1) mfClassicVersionKey 1 strictMode ff₃ =
        some ((true, [v]), ff₄) := hversion
    have hdecide : decide ([v].headD 0 < 2) = false := decide_eq_false hnew
    rw [mfClassicLoadVersion, hread, Option.map_some]
    dsimp only
    rw [if_pos rfl, hdecide]
  have hatqa' : readValueLine scanHex (rounds + 1) iso14443AtqaKey 2 strictMode ff =
      some ((true, atqa), ff₁) := hatqa
  have hsak' : readValueLine scanHex (rounds + 1) iso14443SakKey 1 strictMode ff₁ =
      some ((true, sak), ff₂) := hsak
  have hblocks := hahead.comment (by decide)
  rw [mfClassicLoadHead, iso14443Load, hatqa', Option.bind_some]
  simp only [if_true, hsak', Option.map_some, Option.bind_some, htype, (hname saved.type).1, hload,
    Option.isSome_some, Option.getD_some]
  split_ifs
  · exact ⟨_, _, ff₄, rfl, hblocks⟩
  · exact ⟨_, _, ff₄, rfl, hblocks⟩

lemma mem_cardBlocks (type : MfClassicType) (b : BitVec 8) :
    b ∈ (List.range (mfClassicGetTotalBlockNum type)).map (BitVec.ofNat 8) ↔
      b.toNat < mfClassicGetTotalBlockNum type := by
  rw [List.mem_map]
  constructor
  · rintro ⟨i, hi, rfl⟩
    rw [BitVec.toNat_ofNat]
    exact Nat.lt_of_le_of_lt (Nat.mod_le _ _) (List.mem_range.mp hi)
  · exact fun hb => ⟨b.toNat, List.mem_range.mpr hb, by simp⟩

lemma exists_trailer_iff (type : MfClassicType) (s : Nat) :
    (∃ n ∈ (List.range (mfClassicGetTotalBlockNum type)).map (BitVec.ofNat 8),
      mfClassicIsSectorTrailer n = true ∧ mfClassicGetSectorByBlock n = s) ↔
        s < mfClassicGetTotalSectorsNum type := by
  have hbelow : ∀ n : BitVec 8, n.toNat < mfClassicGetTotalBlockNum type →
      mfClassicGetSectorByBlock n < mfClassicGetTotalSectorsNum type := by
    cases type <;> decide +kernel
  have hsector : ∀ s ∈ List.range (mfClassicGetTotalSectorsNum type),
      (mfClassicGetSectorTrailerNumBySector s).toNat < mfClassicGetTotalBlockNum type ∧
        mfClassicIsSectorTrailer (mfClassicGetSectorTrailerNumBySector s) = true ∧
          mfClassicGetSectorByBlock (mfClassicGetSectorTrailerNumBySector s) = s := by
    cases type <;> decide +kernel
  constructor
  · rintro ⟨n, hn, -, rfl⟩
    exact hbelow n ((mem_cardBlocks type n).mp hn)
  · intro hs
    obtain ⟨hn, htrailer, heq⟩ := hsector s (List.mem_range.mpr hs)
    exact ⟨_, (mem_cardBlocks type _).mpr hn, htrailer, heq⟩

lemma valid_mfClassicSaveItems (saved : MfClassicFileData) :
    ∀ item ∈ mfClassicSaveItems saved, item.Valid := by
  have hname : ∀ type : MfClassicType, mfClassicTypeName type ≠ [] ∧
      eoln ∉ mfClassicTypeName type ∧ eolr ∉ mfClassicTypeName type ∧
        0 ∉ mfClassicTypeName type := by
    rintro (_ | _ | _) <;> decide
  have hatqaKey : ValidKey iso14443AtqaKey := by decide
  have hsakKey : ValidKey iso14443SakKey := by decide
  have htypeKey : ValidKey mfClassicTypeKey := by decide
  have htotal : mfClassicGetTotalBlockNum saved.type ≤ 256 := by
    cases saved.type <;> decide
  intro item hitem
  rcases List.mem_append.mp hitem with hitem | hitem
  · simp only [iso14443SaveItems, List.cons_append, List.nil_append, List.mem_cons,
      List.not_mem_nil, or_false] at hitem
    rcases hitem with rfl | rfl | rfl | rfl | rfl | rfl | rfl
    · decide
    · exact ⟨hatqaKey, List.cons_ne_nil _ _, (by decide : 2 < 65536)⟩
    · exact ⟨hsakKey, List.cons_ne_nil _ _, Nat.one_lt_ofNat⟩
    · decide
    · exact ⟨htypeKey, hname saved.type⟩
    · decide
    · decide
  · obtain ⟨i, hi, rfl⟩ := List.mem_map.mp hitem
    exact valid_mfClassicBlockItem saved (Nat.lt_of_lt_of_le (List.mem_range.mp hi) htotal)

lemma seekable_mfClassicSave (saved : MfClassicFileData) :
    Seekable (mfClassicSave saved File.created).2 := by
  have hsave : mfClassicSave saved File.created =
      (true, (File.created.write (textOf ((mfClassicSaveItems saved).map Item.line))).2) :=
    writeItems_eq (valid_mfClassicSaveItems saved) File.created
  have hcontent : (mfClassicSave saved File.created).2.content =
      textOf ((mfClassicSaveItems saved).map Item.line) := by
    rw [hsave, File.write_content]
    exact overwrite_length [] _
  have htotal : mfClassicGetTotalBlockNum saved.type ≤ 256 := by
    cases saved.type <;> decide
  have hname : (mfClassicTypeName saved.type).length ≤ 64 := by
    cases saved.type <;> decide
  have hcount : ((mfClassicSaveItems saved).map Item.line).length =
      7 + mfClassicGetTotalBlockNum saved.type := by
    simp only [mfClassicSaveItems, iso14443SaveItems, List.length_map, List.length_append,
      List.length_cons, List.length_nil, List.length_range]
  have hlines : ∀ l ∈ (mfClassicSaveItems saved).map Item.line, l.bytes.length ≤ 200 := by
    intro l hl
    obtain ⟨item, hitem, rfl⟩ := List.mem_map.mp hl
    have hentry {key : List UInt8} {value : FlipperStreamValue} (hkey : key.length ≤ 32)
        (hvalues : value.printed.length ≤ 2) (htexts : ∀ t ∈ value.printed, t.length ≤ 64) :
        (Item.entry ⟨key, value⟩).line.bytes.length ≤ 200 :=
      Nat.le_trans (@length_entryLine_le ⟨key, value⟩ 32 2 64 hkey hvalues htexts) (by decide)
    rcases List.mem_append.mp hitem with hitem | hitem
    · simp only [iso14443SaveItems, List.cons_append, List.nil_append, List.mem_cons,
        List.not_mem_nil, or_false] at hitem
      have hhex (n : UInt8) : (hexText 2 n.toNat).length ≤ 64 := by
        rw [length_hexText]
        decide
      rcases hitem with rfl | rfl | rfl | rfl | rfl | rfl | rfl
      · decide
      · exact hentry (by decide) (Nat.le_refl 2) (by simp [FlipperStreamValue.printed])
      · exact hentry (by decide) (Nat.le_succ 1) (by simp [FlipperStreamValue.printed])
      · decide
      · exact hentry (by decide) (Nat.le_succ 1)
          fun t ht => (List.mem_singleton.mp ht) ▸ hname
      · decide
      · decide
    · obtain ⟨i, hi, rfl⟩ := List.mem_map.mp hitem
      refine hentry ?_ (Nat.le_succ 1) fun t ht => ?_
      · have hdigits : (decimalText i).length ≤ 3 :=
          length_decimalText_le (by decide) (by have := List.mem_range.mp hi; omega)
        rw [mfClassicBlockKey, List.length_append]
        exact Nat.add_le_add (Nat.le_refl 6) (Nat.le_trans hdigits (by decide : 3 ≤ 26))
      · rw [List.mem_singleton.mp ht, MfClassicFileData.mfClassicSetBlockStr_eq, List.length_take]
        omega
  have hlength := length_textOf_le hlines
  rw [hcount] at hlength
  rw [Seekable, hcontent]
  omega

/-- `mf_classic_save` at the end of a file, and `mf_classic_load` from a position behind which no
other line comes before what was saved. -/
lemma mfClassicLoad_saved (saved : MfClassicFileData) {ff : File} {p : Nat}
    (hend : ff.pos = ff.content.length) (hp : p ≤ ff.content.length)
    (hskip : Skipped (ff.content.drop p)) (hsize : Seekable (mfClassicSave saved ff).2)
    (strictMode : Bool) (rounds version : Nat) (data : MfClassicFileData) :
    ∃ atqa sak loaded ff', (mfClassicSave saved ff).1 = true ∧
      mfClassicLoad (rounds + 1) strictMode version data ((mfClassicSave saved ff).2.seek p) =
        some (.ended true loaded ff') ∧
      saved.Loaded ((List.range (mfClassicGetTotalBlockNum saved.type)).map (BitVec.ofNat 8))
        { data with type := saved.type, atqa, sak } loaded := by
  have hsave : mfClassicSave saved ff =
      (true, (ff.write (textOf ((mfClassicSaveItems saved).map Item.line))).2) :=
    writeItems_eq (valid_mfClassicSaveItems saved) ff
  rw [hsave] at hsize ⊢
  set g := (ff.write (textOf ((mfClassicSaveItems saved).map Item.line))).2 with hg
  have hcontent : g.content = ff.content ++ textOf ((mfClassicSaveItems saved).map Item.line) := by
    rw [hg, File.write_content, hend]
    exact overwrite_length _ _
  have hpos : (g.seek p).pos = p := by
    refine Nat.min_eq_left ?_
    rw [hcontent, List.length_append]
    exact Nat.le_trans hp (Nat.le_add_right _ _)
  have hahead : Ahead (mfClassicSaveItems saved) (g.seek p) := by
    refine ⟨hsize, ff.content.drop p, [], hskip, ?_⟩
    rw [hpos, File.seek_content, hcontent, List.drop_append_of_le_length hp, List.append_nil]
  obtain ⟨atqa, sak, ff₁, hhead, hblocks⟩ :=
    mfClassicLoadHead_saved strictMode rounds version data hahead
  have htotal : mfClassicGetTotalBlockNum saved.type ≤ 256 := by
    cases saved.type <;> decide
  obtain ⟨loaded, ff', hload, hloaded⟩ :=
    mfClassicLoadBlocks_saved strictMode rounds _
      (fun i hi => Nat.lt_of_lt_of_le (List.mem_range.mp hi) htotal) hblocks
  refine ⟨atqa, sak, loaded, ff', rfl, ?_, hloaded⟩
  rw [mfClassicLoad, hhead, Option.bind_some]
  simp only [if_true, hload, Option.map_some, Bool.false_eq_true, if_false]

/-- A saved card comes back: its type, the found keys of its sectors, which of its blocks were read,
and every byte of its blocks that is known. Of the bits of the masks beyond the card none comes
back. -/
theorem mfClassicLoad_save (saved : MfClassicFileData) (ff : File) (p : Nat)
    (hend : ff.pos = ff.content.length) (hp : p ≤ ff.content.length)
    (hskip : Skipped (ff.content.drop p)) (hsize : Seekable (mfClassicSave saved ff).2)
    (strictMode : Bool) (rounds version : Nat) (hrounds : 0 < rounds) :
    ∃ loaded ff', (mfClassicSave saved ff).1 = true ∧
      mfClassicLoad rounds strictMode version mfClassicAlloc ((mfClassicSave saved ff).2.seek p) =
        some (.ended true loaded ff') ∧
      loaded.type = saved.type ∧
      (∀ sectorNum keyType, loaded.isKeyFound sectorNum keyType =
        (decide (sectorNum < mfClassicGetTotalSectorsNum saved.type) &&
          saved.isKeyFound sectorNum keyType)) ∧
      (∀ blockNum, loaded.isBlockRead blockNum =
        (decide (blockNum.toNat < mfClassicGetTotalBlockNum saved.type) &&
          saved.isBlockRead blockNum)) ∧
      ∀ blockNum i, blockNum.toNat < mfClassicGetTotalBlockNum saved.type →
        saved.isKnown blockNum i = true → loaded.block blockNum i = saved.block blockNum i := by
  obtain ⟨n, rfl⟩ : ∃ n, rounds = n + 1 := ⟨rounds - 1, by omega⟩
  obtain ⟨atqa, sak, loaded, ff', hsave, hload, hloaded⟩ :=
    mfClassicLoad_saved saved hend hp hskip hsize strictMode n version mfClassicAlloc
  refine ⟨loaded, ff', hsave, hload, hloaded.type, fun s keyType => ?_, fun b => ?_,
    fun b i hb hknown => ?_⟩
  · have halloc : ({ mfClassicAlloc with type := saved.type, atqa, sak } :
        MfClassicFileData).isKeyFound s keyType = false := by
      cases keyType <;> exact BitVec.getLsbD_zero
    rw [Bool.eq_iff_iff, hloaded.keyFound, exists_trailer_iff, halloc]
    simp
  · have halloc : ({ mfClassicAlloc with type := saved.type, atqa, sak } :
        MfClassicFileData).isBlockRead b = false := BitVec.getLsbD_zero
    rw [Bool.eq_iff_iff, hloaded.blockRead, mem_cardBlocks, halloc]
    simp
  · rw [hloaded.block, if_pos ⟨(mem_cardBlocks saved.type b).mpr hb, hknown⟩]

/-- A card of the smallest type. Of the first sector the key A has been found and the trailer has been
read, of the second one the key B has been found. -/
def mfClassicPartlyKnown : MfClassicFileData :=
  { mfClassicAlloc with
    keyAMask := 1
    keyBMask := 2
    blockReadMask := fun word => if word.val = 0 then 0xF else 0
    block := fun blockNum i => if blockNum = 3 then BitVec.ofNat 8 (0xA0 + i.val) else 0x5A }

/-- Half known trailers in a new file: the bytes of the key A and the access bits of the first one,
and those of the key B of the second one, are read back. -/
theorem mfClassicLoad_save_mini :
    ∃ loaded ff', (mfClassicSave mfClassicPartlyKnown File.created).1 = true ∧
      mfClassicLoad 1 false 4 mfClassicAlloc
        ((mfClassicSave mfClassicPartlyKnown File.created).2.seek 0) =
          some (.ended true loaded ff') ∧
      loaded.isKeyFound 0 .a = true ∧ loaded.isKeyFound 0 .b = false ∧
      loaded.isKeyFound 1 .b = true ∧ loaded.isBlockRead 3 = true ∧ loaded.isBlockRead 7 = false ∧
      (∀ i : Fin 16, i.val < 10 → loaded.block 3 i = BitVec.ofNat 8 (0xA0 + i.val)) ∧
      ∀ i : Fin 16, 10 ≤ i.val → loaded.block 7 i = 0x5A := by
  obtain ⟨loaded, ff', hsave, hload, -, hkey, hread, hblock⟩ :=
    mfClassicLoad_save mfClassicPartlyKnown File.created 0 rfl (Nat.le_refl 0) skipped_nil
      (seekable_mfClassicSave _) false 1 4 Nat.one_pos
  refine ⟨loaded, ff', hsave, hload, by rw [hkey]; decide, by rw [hkey]; decide,
    by rw [hkey]; decide, by rw [hread]; decide, by rw [hread]; decide, fun i hi => ?_, fun i hi => ?_⟩
  · rw [hblock 3 i (by decide) (by revert i; decide)]
    rfl
  · rw [hblock 7 i (by decide) (by revert i; decide)]
    rfl

/-! ### Bits beyond the card -/

/-- Card data comes back from a new file with all its masks. -/
def MfClassicReadsBack (saved : MfClassicFileData) : Prop :=
  ∃ loaded ff', mfClassicLoad 1 false 4 mfClassicAlloc
      ((mfClassicSave saved File.created).2.seek 0) = some (.ended true loaded ff') ∧
    loaded.type = saved.type ∧ loaded.keyAMask = saved.keyAMask ∧
    loaded.keyBMask = saved.keyBMask ∧ loaded.blockReadMask = saved.blockReadMask ∧
    ∀ blockNum i, saved.isKnown blockNum i = true →
      loaded.block blockNum i = saved.block blockNum i

/-- A key of sector 10, on a card of five sectors. -/
theorem not_mfClassicReadsBack_sparse :
    ¬MfClassicReadsBack { mfClassicAlloc with keyAMask := 0x400 } := by
  rintro ⟨loaded, ff', hload, -, hmask, -⟩
  obtain ⟨atqa, sak, loaded', ff₁, -, hload', hloaded⟩ :=
    @mfClassicLoad_saved { mfClassicAlloc with keyAMask := 0x400 } File.created 0 rfl
      (Nat.le_refl 0) skipped_nil (seekable_mfClassicSave _) false 0 4 mfClassicAlloc
  have hsame : loaded' = loaded :=
    (MfClassicLoad.ended.inj (Option.some.inj (hload'.symm.trans hload))).2.1
  subst hsame
  have hkey := hloaded.keyFound 10 .a
  rw [exists_trailer_iff] at hkey
  have hfound : loaded'.isKeyFound 10 .a = true := by
    rw [MfClassicFileData.isKeyFound, hmask]
    decide
  rcases hkey.mp hfound with h | ⟨h, -⟩
  · exact absurd h (by simp [MfClassicFileData.isKeyFound, mfClassicAlloc])
  · exact absurd h (by decide)

end FlipperZero
