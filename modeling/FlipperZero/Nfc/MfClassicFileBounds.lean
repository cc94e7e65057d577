import FlipperZero.Nfc.MfClassicFile

/-!
# Lines shorter than a block

The parser of a block line takes the character at `3 * i + 1` for each of the sixteen bytes, up to
the character 46. Nothing compares these positions with the length of the line, so `Block 0: 11`
is read beyond its end. A load stays inside its lines exactly if every line of a block that it reads
has 47 characters or more between its spaces.
-/

namespace FlipperZero

open Foundation FlipperFormatStream

/-! ### One line -/

lemma furiStringTrim_trim (str : List UInt8) :
    furiStringTrim (furiStringTrim str) = furiStringTrim str := by
  set p := furiStringIsTrimmed
  have hfirst : ((str.dropWhile p).rdropWhile p).dropWhile p = (str.dropWhile p).rdropWhile p := by
    rw [List.dropWhile_eq_self_iff]
    intro hpos
    have hkept := List.rdropWhile_prefix p (str.dropWhile p)
    have hpos' : 0 < (str.dropWhile p).length := Nat.lt_of_lt_of_le hpos hkept.length_le
    have hhead := List.dropWhile_eq_self_iff.mp (List.dropWhile_idempotent p str) hpos'
    rwa [hkept.getElem hpos]
  rw [furiStringTrim, furiStringTrim, hfirst, List.rdropWhile_idempotent]

/-- A byte is taken if its second character stands inside the line. -/
lemma mfClassicScanByte_isSome (str : List UInt8) (s : MfClassicBlockScan) (i : Fin 16) :
    (mfClassicScanByte str s i).isSome ↔ 3 * i.val + 1 < str.length := by
  unfold mfClassicScanByte furiStringGetChar
  constructor
  · intro h
    obtain ⟨r, hr⟩ := Option.isSome_iff_exists.mp h
    obtain ⟨hi, -, hmap⟩ := Option.bind_eq_some_iff.mp hr
    obtain ⟨low, hlow, -⟩ := Option.map_eq_some_iff.mp hmap
    exact (List.getElem?_eq_some_iff.mp hlow).1
  · intro h
    rw [List.getElem?_eq_getElem (show 3 * i.val < str.length by omega),
      List.getElem?_eq_getElem h]
    rfl

lemma foldlM_mfClassicScanByte_isSome (str : List UInt8) (bytes : List (Fin 16))
    (s : MfClassicBlockScan) :
    (bytes.foldlM (mfClassicScanByte str) s).isSome ↔ ∀ i ∈ bytes, 3 * i.val + 1 < str.length := by
  induction bytes generalizing s with
  | nil => simp
  | cons i bytes ih =>
    rw [List.foldlM_cons, List.forall_mem_cons, ← mfClassicScanByte_isSome str s i]
    cases hstep : mfClassicScanByte str s i with
    | none => simp
    | some s' => simpa using ih s'

/-- The parser stays inside a line that has the characters of a block between its spaces. -/
lemma mfClassicParseBlock_isSome (blockStr : List UInt8) (data : MfClassicFileData)
    (blockNum : BitVec 8) :
    (mfClassicParseBlock blockStr data blockNum).isSome ↔
      47 ≤ (furiStringTrim blockStr).length := by
  rw [mfClassicParseBlock, Option.isSome_map, furiStringTrim_trim, mfClassicScanBlock,
    foldlM_mfClassicScanByte_isSome]
  constructor
  · intro h
    exact h 15 (List.mem_finRange 15)
  · intro h i _
    omega

/-! ### The lines of a file -/

/-- The values of the block lines that a load reads one after the other. -/
def mfClassicBlockValues (rounds : Nat) (strictMode : Bool) : List Nat → File → List (List UInt8)
  | [], _           => []
  | i :: blocks, ff =>
    match readStringLine rounds (mfClassicBlockKey i) strictMode ff with
    | some ((true, blockStr), ff) => blockStr :: mfClassicBlockValues rounds strictMode blocks ff
    | _                           => []

/-- The values of the block lines that `mf_classic_load` reads, if it comes to the blocks. -/
def mfClassicFileValues (rounds : Nat) (strictMode : Bool) (version : Nat)
    (data : MfClassicFileData) (ff : File) : List (List UInt8) :=
  match mfClassicLoadHead rounds strictMode version data ff with
  | some (true, data, _, ff) =>
    mfClassicBlockValues rounds strictMode (List.range (mfClassicGetTotalBlockNum data.type)) ff
  | _                        => []

namespace MfClassicLoad

/-- `mf_classic_load` returns. -/
def Ended : MfClassicLoad → Prop
  | .ended _ _ _ => True
  | .outside _   => False

instance : ∀ r : MfClassicLoad, Decidable r.Ended
  | .ended _ _ _ => inferInstanceAs (Decidable True)
  | .outside _   => inferInstanceAs (Decidable False)

end MfClassicLoad

lemma mfClassicLoadBlocks_ended_iff (rounds : Nat) (strictMode : Bool) (blocks : List Nat) :
    ∀ {data : MfClassicFileData} {ff : File} {r : MfClassicLoad},
      mfClassicLoadBlocks rounds strictMode blocks data ff = some r →
        (r.Ended ↔ ∀ value ∈ mfClassicBlockValues rounds strictMode blocks ff,
          47 ≤ (furiStringTrim value).length) := by
  induction blocks with
  | nil =>
    intro data ff r h
    cases h
    simp [MfClassicLoad.Ended, mfClassicBlockValues]
  | cons i blocks ih =>
    intro data ff r h
    rw [mfClassicLoadBlocks] at h
    rw [mfClassicBlockValues]
    obtain ⟨⟨⟨ok, blockStr⟩, ff'⟩, hread, hnext⟩ := Option.bind_eq_some_iff.mp h
    rw [hread]
    cases ok with
    | false =>
      cases hnext
      simp [MfClassicLoad.Ended]
    | true =>
      have hparse := mfClassicParseBlock_isSome blockStr data (BitVec.ofNat 8 i)
      cases hblock : mfClassicParseBlock blockStr data (BitVec.ofNat 8 i) with
      | none =>
        rw [hblock] at hparse
        simp only [if_true, hblock] at hnext
        cases hnext
        simp only [MfClassicLoad.Ended, List.forall_mem_cons, false_iff]
        exact fun hall => absurd (hparse.mpr hall.1) (by simp)
      | some data' =>
        rw [hblock] at hparse
        simp only [if_true, hblock] at hnext
        rw [ih hnext, List.forall_mem_cons]
        exact ⟨fun hall => ⟨hparse.mp rfl, hall⟩, fun hall => hall.2⟩

/-! ### The end of a load -/

lemma readStringLine_total {ff : File} {rounds : Nat} (hf : Seekable ff)
    (h : ff.content.length < rounds) (key : List UInt8) (strictMode : Bool) :
    ∃ r ff', readStringLine rounds key strictMode ff = some (r, ff') ∧
      ff'.content = ff.content := by
  obtain ⟨⟨found, g⟩, hseek, hcontent⟩ := seekToKey_total hf h key strictMode
  rw [readStringLine, hseek]
  cases found with
  | false => exact ⟨_, _, rfl, hcontent⟩
  | true => exact ⟨_, _, rfl, (readLine_content g).trans hcontent⟩

section Total

variable {ff : File} {rounds : Nat} (hf : Seekable ff) (h : ff.content.length < rounds)
  (strictMode : Bool) (version : Nat) (data : MfClassicFileData)

include hf h

lemma iso14443Load_total :
    ∃ ok data' ff', iso14443Load rounds strictMode version data ff = some (ok, data', ff') ∧
      ff'.content = ff.content := by
  obtain ⟨⟨⟨ok, atqa⟩, g⟩, hatqa, hg⟩ :=
    readValueLine_total hf h scanHex iso14443AtqaKey 2 strictMode
  have hf' : Seekable g := by rwa [Seekable, hg]
  obtain ⟨⟨⟨ok', sak⟩, g'⟩, hsak, hg'⟩ :=
    readValueLine_total hf' (by rwa [hg]) scanHex iso14443SakKey 1 strictMode
  rw [iso14443Load, hatqa, Option.bind_some]
  cases ok with
  | false => exact ⟨_, _, _, rfl, hg⟩
  | true =>
    simp only [if_true, hsak, Option.map_some]
    cases ok' with
    | false => exact ⟨_, _, _, rfl, hg'.trans hg⟩
    | true => exact ⟨_, _, _, rfl, hg'.trans hg⟩

lemma mfClassicLoadVersion_total :
    ∃ oldFormat ff', mfClassicLoadVersion rounds strictMode ff = some (oldFormat, ff') ∧
      ff'.content = ff.content := by
  obtain ⟨⟨⟨ok, values⟩, g⟩, hread, hg⟩ :=
    readValueLine_total hf h scanUint32 mfClassicVersionKey 1 strictMode
  rw [mfClassicLoadVersion, hread, Option.map_some]
  cases ok with
  | false => exact ⟨_, _, rfl, (fileStreamSeek_content g 0 .fromStart).trans hg⟩
  | true => exact ⟨_, _, rfl, hg⟩

lemma mfClassicLoadHead_total :
    ∃ ok data' oldFormat ff', mfClassicLoadHead rounds strictMode version data ff =
      some (ok, data', oldFormat, ff') ∧ ff'.content = ff.content := by
  obtain ⟨ok, data', g, hiso, hg⟩ := iso14443Load_total hf h strictMode version data
  have hf' : Seekable g := by rwa [Seekable, hg]
  obtain ⟨⟨ok', name⟩, g', hname, hg'⟩ :=
    readStringLine_total hf' (by rwa [hg]) mfClassicTypeKey strictMode
  have hf'' : Seekable g' := by rwa [Seekable, hg', hg]
  obtain ⟨oldFormat, g'', hversion, hg''⟩ :=
    mfClassicLoadVersion_total hf'' (by rwa [hg', hg]) strictMode
  rw [mfClassicLoadHead, hiso, Option.bind_some]
  cases ok with
  | false => exact ⟨_, _, _, _, rfl, hg⟩
  | true =>
    simp only [if_true, hname, Option.bind_some]
    split
    · exact ⟨_, _, _, _, rfl, hg'.trans hg⟩
    · simp only [hversion, Option.map_some]
      exact ⟨_, _, _, _, rfl, hg''.trans (hg'.trans hg)⟩

lemma mfClassicLoadBlocks_total (blocks : List Nat) :
    ∃ r, mfClassicLoadBlocks rounds strictMode blocks data ff = some r := by
  induction blocks generalizing data ff with
  | nil => exact ⟨_, rfl⟩
  | cons i blocks ih =>
    obtain ⟨⟨ok, blockStr⟩, g, hread, hg⟩ :=
      readStringLine_total hf h (mfClassicBlockKey i) strictMode
    rw [mfClassicLoadBlocks, hread, Option.bind_some]
    cases ok with
    | false => exact ⟨_, rfl⟩
    | true =>
      simp only [if_true]
      split
      · exact ⟨_, rfl⟩
      · exact ih (by rwa [Seekable, hg]) (by rwa [hg]) _

lemma mfClassicLoad_total :
    ∃ r, mfClassicLoad rounds strictMode version data ff = some r := by
  obtain ⟨ok, data', oldFormat, g, hhead, hg⟩ :=
    mfClassicLoadHead_total hf h strictMode version data
  have hseekable : Seekable g := by rwa [Seekable, hg]
  obtain ⟨r, hblocks⟩ := mfClassicLoadBlocks_total hseekable (by rwa [hg]) strictMode data'
    (List.range (mfClassicGetTotalBlockNum data'.type))
  rw [mfClassicLoad, hhead, Option.bind_some]
  cases ok with
  | false => exact ⟨_, rfl⟩
  | true => exact ⟨_, by simp only [if_true, hblocks, Option.map_some]; rfl⟩

end Total

/-! ### Loads inside their lines -/

/-- `mf_classic_load` returns from the file: no character outside a line is taken. -/
def MfClassicLoadReturns (rounds : Nat) (strictMode : Bool) (version : Nat)
    (data : MfClassicFileData) (ff : File) : Prop :=
  ∀ r ∈ mfClassicLoad rounds strictMode version data ff, r.Ended

lemma mfClassicLoad_ended_iff {rounds : Nat} {strictMode : Bool} {version : Nat}
    {data : MfClassicFileData} {ff : File} {r : MfClassicLoad}
    (h : mfClassicLoad rounds strictMode version data ff = some r) :
    r.Ended ↔ ∀ value ∈ mfClassicFileValues rounds strictMode version data ff,
      47 ≤ (furiStringTrim value).length := by
  rw [mfClassicLoad] at h
  obtain ⟨⟨ok, data', oldFormat, g⟩, hhead, hblocks⟩ := Option.bind_eq_some_iff.mp h
  rw [mfClassicFileValues, hhead]
  cases ok with
  | false =>
    cases hblocks
    simp [MfClassicLoad.Ended]
  | true =>
    obtain ⟨r', hread, hr⟩ := Option.map_eq_some_iff.mp hblocks
    have hsame : r.Ended ↔ r'.Ended := by
      rw [← hr]
      rcases r' with ⟨_ | _, data', g'⟩ | blockStr <;> rfl
    rw [hsame]
    exact mfClassicLoadBlocks_ended_iff rounds strictMode _ hread

/-- Whatever stands in the file, a load that comes to an end takes no character outside a line
exactly if each value of a block line that it reads has 47 characters or more between its spaces.
In a file below 2 GiB it does come to an end. -/
theorem mfClassicLoad_returns_iff (rounds : Nat) (strictMode : Bool) (version : Nat)
    (data : MfClassicFileData) (ff : File) :
    ((mfClassicLoad rounds strictMode version data ff).isSome →
      (MfClassicLoadReturns rounds strictMode version data ff ↔
        ∀ value ∈ mfClassicFileValues rounds strictMode version data ff,
          47 ≤ (furiStringTrim value).length)) ∧
      (Seekable ff → ff.content.length < rounds →
        (mfClassicLoad rounds strictMode version data ff).isSome) := by
  refine ⟨fun hsome => ?_, fun hf h => ?_⟩
  · obtain ⟨r, hr⟩ := Option.isSome_iff_exists.mp hsome
    rw [← mfClassicLoad_ended_iff hr, MfClassicLoadReturns, hr]
    simp
  · exact Option.isSome_iff_exists.mpr (mfClassicLoad_total hf h strictMode version data)

/-- A file of a small card whose first block line has one byte. -/
def mfClassicShortFile : File :=
  ⟨textOf [.entry iso14443AtqaKey [48, 48, space, 48, 52], .entry iso14443SakKey [48, 56],
    .entry mfClassicTypeKey (mfClassicTypeName .mini), .entry mfClassicVersionKey [50],
    .entry (mfClassicBlockKey 0) [49, 49]], 0, Nat.zero_le _⟩

lemma mfClassicLoad_shortFile :
    ∃ r, mfClassicLoad 1 false 4 mfClassicAlloc mfClassicShortFile = some r ∧ ¬r.Ended := by
  have hload : (mfClassicLoad 1 false 4 mfClassicAlloc mfClassicShortFile).any
      (fun r => decide ¬r.Ended) = true := by decide +kernel
  cases hr : mfClassicLoad 1 false 4 mfClassicAlloc mfClassicShortFile with
  | none =>
    rw [hr] at hload
    exact absurd hload (by simp)
  | some r =>
    rw [hr] at hload
    exact ⟨r, rfl, of_decide_eq_true hload⟩

/-- The short file, of which a load does not come back. -/
theorem mfClassicLoad_returns_iff_short :
    MfClassicLoadReturns 1 false 4 mfClassicAlloc mfClassicShortFile ↔
      ∀ value ∈ mfClassicFileValues 1 false 4 mfClassicAlloc mfClassicShortFile,
        47 ≤ (furiStringTrim value).length :=
  (mfClassicLoad_returns_iff 1 false 4 mfClassicAlloc mfClassicShortFile).1 (by decide +kernel)

/-- The parser goes on to the character 3 of a line of two. -/
theorem not_mfClassicLoadReturns_short :
    ¬MfClassicLoadReturns 1 false 4 mfClassicAlloc mfClassicShortFile := by
  obtain ⟨r, hr, hended⟩ := mfClassicLoad_shortFile
  exact fun h => hended (h r hr)

end FlipperZero
