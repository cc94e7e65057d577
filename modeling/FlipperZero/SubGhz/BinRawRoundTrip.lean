import FlipperZero.SubGhz.BinRaw
import FlipperZero.SubGhz.Replay

/-!
# The upload of a saved BinRAW transmission

A saved transmission is read back with its segments one behind the other. The string of bits grows in
the array that it is read from: a bit is written no later in the array than where the next one is
read, so that none is lost, and the upload has the runs of the bits of all segments in order.
-/

namespace FlipperZero

open Foundation FlipperFormatStream

/-! ### Bits in place -/

lemma getLsbD_writeBit (byte : BitVec 8) (b : Bool) (k l : Fin 8) :
    (if b then byte ||| 1#8 <<< k.val else byte &&& ~~~(1#8 <<< k.val)).getLsbD l.val =
      if l = k then b else byte.getLsbD l.val := by
  have hone : ∀ k l : Fin 8, (1#8 <<< k.val).getLsbD l.val = decide (l = k) := by decide
  have hl : l.val < 8 := l.isLt
  by_cases heq : l = k
  · cases b <;> simp only [BitVec.getLsbD_or, BitVec.getLsbD_and, BitVec.getLsbD_not, hone, heq,
      Bool.false_eq_true, if_false, if_true, decide_true, Bool.not_true, Bool.and_false, Bool.or_true]
  · cases b <;> simp only [BitVec.getLsbD_or, BitVec.getLsbD_and, BitVec.getLsbD_not, hone, heq, hl,
      Bool.false_eq_true, if_false, if_true, decide_true, decide_false, Bool.not_false, Bool.and_true,
      Bool.or_false]

lemma getBitArray_setBitArray {b : Bool} {data data' : Nat → BitVec 8} {i size : Nat}
    (h : subghzProtocolBlocksSetBitArray b data i size = some data') (j : Nat) :
    subghzProtocolBlocksGetBitArray data' j =
      if j = i then b else subghzProtocolBlocksGetBitArray data j := by
  by_cases hsize : i < size * 8
  · obtain rfl := Option.some.inj ((if_pos hsize).symm.trans h)
    rw [subghzProtocolBlocksGetBitArray]
    by_cases hbyte : j / 8 = i / 8
    · have hbit : (⟨7 - j % 8, by omega⟩ : Fin 8) = ⟨7 - i % 8, by omega⟩ ↔ j = i := by
        rw [Fin.mk.injEq]
        omega
      rw [hbyte, Function.update_self]
      refine (getLsbD_writeBit (data (i / 8)) b ⟨7 - i % 8, by omega⟩ ⟨7 - j % 8, by omega⟩).trans ?_
      simp only [hbit, subghzProtocolBlocksGetBitArray, hbyte]
    · have hne : j ≠ i := fun heq => hbyte (heq ▸ rfl)
      rw [Function.update_of_ne hbyte, if_neg hne]
      rfl
  · exact absurd ((if_neg hsize).symm.trans h) (Option.some_ne_none data').symm

lemma setBitArray_isSome {b : Bool} {data : Nat → BitVec 8} {i size : Nat} (h : i < size * 8) :
    ∃ data', subghzProtocolBlocksSetBitArray b data i size = some data' :=
  ⟨_, if_pos h⟩

/-- The bits of a segment in an array. -/
def BinRAWMarkup.bits (data : Nat → BitVec 8) (markup : BinRAWMarkup) : List Bool :=
  selectedBits data markup.bitCount (markup.byteBias * 8 +
    (subghzProtocolBinRawGetFullByte markup.bitCount * 8 - markup.bitCount))

lemma selectedBits_congr {data data' : Nat → BitVec 8} {count bias : Nat}
    (h : ∀ j, bias ≤ j → j < bias + count →
      subghzProtocolBlocksGetBitArray data' j = subghzProtocolBlocksGetBitArray data j) :
    selectedBits data' count bias = selectedBits data count bias := by
  refine List.map_congr_left fun i hi => h _ (Nat.le_add_right _ _) ?_
  exact Nat.add_lt_add_left (List.mem_range.mp hi) bias

lemma selectedBits_last (data : Nat → BitVec 8) (count : Nat) :
    selectedBits data (count + 1) 0 =
      selectedBits data count 0 ++ [subghzProtocolBlocksGetBitArray data count] := by
  rw [selectedBits, selectedBits, List.range_succ, List.map_append, List.map_singleton, Nat.zero_add]

lemma binRawGlueBits_eq (bitBias n : Nat) : ∀ {y ind : Nat} {data : Nat → BitVec 8},
    ind ≤ y → ind + n ≤ 4096 → ∃ data',
      binRawGlueBits bitBias n y (data, ind) = some (data', ind + n) ∧
        selectedBits data' (ind + n) 0 =
          selectedBits data ind 0 ++ selectedBits data n (y + bitBias) ∧
        ∀ j, ind + n ≤ j →
          subghzProtocolBlocksGetBitArray data' j = subghzProtocolBlocksGetBitArray data j := by
  induction n with
  | zero =>
    intro y ind data _ _
    exact ⟨data, rfl, (List.append_nil _).symm, fun _ _ => rfl⟩
  | succ n ih =>
    intro y ind data hle hsize
    obtain ⟨data₁, hset⟩ := @setBitArray_isSome
      (subghzProtocolBlocksGetBitArray data (y + bitBias)) data ind 512 (by omega)
    have hbit := getBitArray_setBitArray hset
    obtain ⟨data', hglue, hbits, hrest⟩ := @ih (y + 1) (ind + 1) data₁ (by omega) (by omega)
    have hsum : ind + 1 + n = ind + (n + 1) := by omega
    rw [hsum] at hglue hbits hrest
    refine ⟨data', ?_, ?_, fun j hj => ?_⟩
    · rw [binRawGlueBits, hset, Option.bind_some]
      exact hglue
    · -- the bit that is written is in front of all that are still to be read
      have hbefore : selectedBits data₁ ind 0 = selectedBits data ind 0 :=
        selectedBits_congr fun j _ hj => (hbit j).trans (if_neg (by omega))
      have hafter : selectedBits data₁ n (y + 1 + bitBias) = selectedBits data n (y + 1 + bitBias) :=
        selectedBits_congr fun j hj _ => (hbit j).trans (if_neg (by omega))
      have hbias : y + 1 + bitBias = y + bitBias + 1 := by omega
      rw [hbits, selectedBits_last, hbefore, hafter, hbit, if_pos rfl, selectedBits_succ, hbias,
        List.append_assoc, List.singleton_append]
    · rw [hrest j hj, hbit, if_neg (by omega)]

/-- The segments stand one behind the other in an array, from the byte `byteBias` on, with the bytes
they have in another one. -/
def BinRAWPlaced (source data : Nat → BitVec 8) :
    Nat → List BinRAWMarkup → List BinRAWMarkup → Prop
  | _,        [],           placed => placed = []
  | byteBias, markup :: ms, placed => ∃ rest, placed = ⟨byteBias, markup.bitCount⟩ :: rest ∧
      (∀ i < subghzProtocolBinRawGetFullByte markup.bitCount,
        data (byteBias + i) = source (markup.byteBias + i)) ∧
      BinRAWPlaced source data (byteBias + subghzProtocolBinRawGetFullByte markup.bitCount) ms rest

lemma le_fullByte (bitCount : Nat) : bitCount ≤ subghzProtocolBinRawGetFullByte bitCount * 8 := by
  rw [subghzProtocolBinRawGetFullByte]
  split_ifs <;> omega

def binRawBytes (segments : List BinRAWMarkup) : Nat :=
  (segments.map fun markup => subghzProtocolBinRawGetFullByte markup.bitCount).sum

lemma getBitArray_placed {source data : Nat → BitVec 8} {start start' size t : Nat}
    (h : ∀ i < size, data (start + i) = source (start' + i)) (ht : t < size * 8) :
    subghzProtocolBlocksGetBitArray data (start * 8 + t) =
      subghzProtocolBlocksGetBitArray source (start' * 8 + t) := by
  have hbyte (a : Nat) : (a * 8 + t) / 8 = a + t / 8 := by omega
  have hbit (a : Nat) : (a * 8 + t) % 8 = t % 8 := by omega
  rw [subghzProtocolBlocksGetBitArray, subghzProtocolBlocksGetBitArray, hbyte, hbyte, hbit, hbit,
    h (t / 8) (by omega)]

lemma foldlM_binRawGlue {source data₀ : Nat → BitVec 8} (segments : List BinRAWMarkup) :
    ∀ {placed : List BinRAWMarkup} {byteBias ind : Nat} {data : Nat → BitVec 8},
      BinRAWPlaced source data₀ byteBias segments placed → ind ≤ byteBias * 8 →
      byteBias + binRawBytes segments ≤ 512 →
      (∀ j, ind ≤ j →
        subghzProtocolBlocksGetBitArray data j = subghzProtocolBlocksGetBitArray data₀ j) →
      ∃ data' ind', placed.foldlM binRawGlue (data, ind) = some (data', ind') ∧
        selectedBits data' ind' 0 =
          selectedBits data ind 0 ++ segments.flatMap (BinRAWMarkup.bits source) := by
  induction segments with
  | nil =>
    intro placed byteBias ind data hplaced _ _ _
    obtain rfl : placed = [] := hplaced
    exact ⟨data, ind, rfl, (List.append_nil _).symm⟩
  | cons markup segments ih =>
    intro placed byteBias ind data hplaced hle hsize hsame
    obtain ⟨rest, rfl, hbytes, hplaced⟩ := hplaced
    have hbytesCons : binRawBytes (markup :: segments) =
        subghzProtocolBinRawGetFullByte markup.bitCount + binRawBytes segments := rfl
    have hfull := le_fullByte markup.bitCount
    obtain ⟨data₁, hglue, hbits, hrest⟩ := @binRawGlueBits_eq
      (subghzProtocolBinRawGetFullByte markup.bitCount * 8 - markup.bitCount) markup.bitCount
      (byteBias * 8) ind data hle (by omega)
    obtain ⟨data', ind', hfold, hall⟩ := @ih rest _ (ind + markup.bitCount) data₁ hplaced (by omega)
      (by omega) fun j hj => (hrest j hj).trans (hsame j (by omega))
    have hsource : selectedBits data markup.bitCount (byteBias * 8 +
        (subghzProtocolBinRawGetFullByte markup.bitCount * 8 - markup.bitCount)) =
          markup.bits source := by
      refine (selectedBits_congr fun j hj _ => hsame j (by omega)).trans ?_
      refine List.map_congr_left fun i hi => ?_
      have hi' := List.mem_range.mp hi
      rw [Nat.add_assoc, Nat.add_assoc]
      exact getBitArray_placed hbytes (by omega)
    refine ⟨data', ind', ?_, ?_⟩
    · rw [List.foldlM_cons, binRawGlue, hglue]
      exact hfold
    · rw [hall, hbits, hsource, List.flatMap_cons, List.append_assoc]

/-! ### The upload -/

/-- The bits of the segments of an array of entries, in order. -/
def binRawBits (data : Nat → BitVec 8) (dataMarkup : Nat → BinRAWMarkup) : List Bool :=
  (binRawSegments dataMarkup 20 0).flatMap (BinRAWMarkup.bits data)

lemma getUpload_placed {source : Nat → BitVec 8} {segments : List BinRAWMarkup}
    {inst : SubGhzProtocolEncoderBinRAW}
    (hplaced : BinRAWPlaced source inst.data 0 segments (binRawSegments inst.dataMarkup 20 0))
    (hsize : binRawBytes segments ≤ 512)
    (hruns : (bitRuns (segments.flatMap (BinRAWMarkup.bits source))).length ≤ inst.sizeUpload) :
    (segments.flatMap (BinRAWMarkup.bits source) ≠ [] →
      (subghzProtocolEncoderBinRawGetUpload inst).upload =
        some (.done ((bitRuns (segments.flatMap (BinRAWMarkup.bits source))).map
          (runEntry inst.te.toBitVec)))) ∧
      (segments.flatMap (BinRAWMarkup.bits source) = [] →
        ∃ entry, (subghzProtocolEncoderBinRawGetUpload inst).upload = some (.done [entry])) := by
  obtain ⟨data, ind, hglue, hbits⟩ := @foldlM_binRawGlue source inst.data segments _ 0 0 inst.data
    hplaced (Nat.le_refl 0) (by omega) fun _ _ => rfl
  have hempty : selectedBits inst.data 0 0 = [] := rfl
  rw [hempty, List.nil_append] at hbits
  have hind : ind = (segments.flatMap (BinRAWMarkup.bits source)).length := by
    rw [← hbits, selectedBits, List.length_map, List.length_range]
  rw [subghzProtocolEncoderBinRawGetUpload, hglue]
  refine ⟨fun hne => ?_, fun hnil => ?_⟩
  · have hpos : 1 ≤ ind := hind ▸ List.length_pos_iff.mpr hne
    have hupload := (getUploadFromBitArray_eq data hpos inst.sizeUpload inst.te.toBitVec .left).1
    rw [biasBit, hbits] at hupload
    exact congrArg some (hupload (by omega))
  · obtain rfl : ind = 0 := by rw [hind, hnil, List.length_nil]
    exact ⟨_, rfl⟩

/-! ### Reading the segments -/

lemma bitCount_of_read {values : List Nat} {bitCount : Nat}
    (h : values.map UInt32.ofNat = [UInt32.ofNat bitCount]) (hlt : bitCount < 2 ^ 16) :
    values.getD 0 0 % 2 ^ 16 = bitCount := by
  obtain ⟨v, rfl, hv⟩ := List.map_eq_singleton_iff.mp h
  have hnat := congrArg UInt32.toNat hv
  rw [UInt32.toNat_ofNat', UInt32.toNat_ofNat'] at hnat
  show v % 2 ^ 16 = bitCount
  omega

lemma binRawStore_of_read {source data : Nat → BitVec 8} {values : List Nat} {start byteBias size : Nat}
    (h : values.map UInt8.ofNat =
      (List.range size).map fun i => UInt8.ofBitVec (source (byteBias + i))) :
    (∀ i < size, binRawStore data start values (start + i) = source (byteBias + i)) ∧
      ∀ i < start, binRawStore data start values i = data i := by
  have hlength : values.length = size := by
    have hlengths := congrArg List.length h
    rwa [List.length_map, List.length_map, List.length_range] at hlengths
  refine ⟨fun i hi => ?_, fun i hi => if_neg fun hand => Nat.not_le.mpr hi hand.1⟩
  have hvalue := congrArg (fun l => l[i]?) h
  simp only [List.getElem?_map, List.getElem?_range hi, List.getElem?_eq_getElem (hlength ▸ hi),
    Option.map_some, Option.some.injEq] at hvalue
  rw [binRawStore, if_pos ⟨Nat.le_add_right start i, by omega⟩, Nat.add_sub_cancel_left,
    List.getD_eq_getElem _ _ (hlength ▸ hi)]
  exact congrArg UInt8.toBitVec hvalue

lemma validKey_bit : ValidKey binRawBitKey := by decide

lemma validKey_te : ValidKey binRawTeKey := by decide

lemma validKey_bitRaw : ValidKey binRawBitRawKey := by decide

lemma validKey_dataRaw : ValidKey binRawDataRawKey := by decide

lemma fullByte_pos {bitCount : Nat} (h : bitCount ≠ 0) :
    0 < subghzProtocolBinRawGetFullByte bitCount := by
  rw [subghzProtocolBinRawGetFullByte]
  split_ifs <;> omega

lemma binRawReadSegments_eq (source : Nat → BitVec 8) {rounds : Nat} (segments : List BinRAWMarkup) :
    ∀ {left ind byteBias : Nat} {inst : SubGhzProtocolEncoderBinRAW} {ff : File},
      AheadOf [] ((segments.flatMap (binRawSegmentItems source)).map .entry) ff →
      ff.content.length < rounds + 2 → (∀ markup ∈ segments, markup.bitCount ≠ 0) →
      left + ind = 21 → ind + segments.length ≤ 20 → byteBias + binRawBytes segments ≤ 512 →
      (∀ i, ind ≤ i → inst.dataMarkup i = ⟨0, 0⟩) →
      ∃ inst' ff', binRawReadSegments (rounds + 2) left ind byteBias byteBias inst ff =
          some (inst', ff') ∧
        ff'.content = ff.content ∧ (inst'.te = inst.te ∧ inst'.sizeUpload = inst.sizeUpload) ∧
        (∀ i < byteBias, inst'.data i = inst.data i) ∧
        (∀ i < ind, inst'.dataMarkup i = inst.dataMarkup i) ∧
        BinRAWPlaced source inst'.data byteBias segments
          (binRawSegments inst'.dataMarkup (20 - ind) ind) := by
  induction segments with
  | nil =>
    intro left ind byteBias inst ff hahead hrounds _ hleft _ _ hzero
    obtain ⟨left, rfl⟩ : ∃ n, left = n + 1 := ⟨left - 1, by simp at *; omega⟩
    have hnone := hahead.seek_none binRawBitRawKey rounds
    have hread : readValueLine scanUint32 (rounds + 2) binRawBitRawKey 1 false ff =
        some ((false, []), ff.seek ff.content.length) := by
      rw [readValueLine, hnone]
      rfl
    refine ⟨inst, ff.seek ff.content.length, ?_, rfl, ⟨rfl, rfl⟩, fun _ _ => rfl, fun _ _ => rfl, ?_⟩
    · rw [binRawReadSegments, hread]
      rfl
    · show binRawSegments inst.dataMarkup (20 - ind) ind = []
      cases 20 - ind with
      | zero => rfl
      | succ n =>
        rw [binRawSegments, hzero ind (Nat.le_refl ind)]
        rfl
  | cons markup segments ih =>
    intro left ind byteBias inst ff hahead hrounds hne hleft hind hbytes hzero
    rw [List.length_cons] at hind
    obtain ⟨left, rfl⟩ : ∃ n, left = n + 1 := ⟨left - 1, by omega⟩
    have hbytesCons : binRawBytes (markup :: segments) =
        subghzProtocolBinRawGetFullByte markup.bitCount + binRawBytes segments := rfl
    have hcount := hne markup List.mem_cons_self
    have hfull := le_fullByte markup.bitCount
    have hpos := fullByte_pos hcount
    have hbits : markup.bitCount < 2 ^ 16 := by omega
    rw [List.flatMap_cons, List.map_append] at hahead
    -- the number of bits
    obtain ⟨values, g, hread, hvalues, hahead'⟩ := AheadOf.uint32 hahead
      ⟨validKey_bitRaw, List.cons_ne_nil _ _, Nat.one_lt_ofNat⟩ false (rounds + 1)
    have hcontent : g.content = ff.content := readValueLine_content hahead.1 hrounds hread
    -- the bytes
    have hitem : ((List.range (subghzProtocolBinRawGetFullByte markup.bitCount)).map
        fun i => UInt8.ofBitVec (source (markup.byteBias + i))) ≠ [] := by
      rw [Ne, List.map_eq_nil_iff, List.range_eq_nil]
      exact Nat.ne_of_gt hpos
    have hitemSize : ((List.range (subghzProtocolBinRawGetFullByte markup.bitCount)).map
        fun i => UInt8.ofBitVec (source (markup.byteBias + i))).length < 65536 := by
      rw [List.length_map, List.length_range]
      omega
    obtain ⟨bytes, g', hread', hbytesRead, hahead''⟩ := AheadOf.hex hahead'
      ⟨validKey_dataRaw, hitem, hitemSize⟩ false (rounds + 1)
    have hcontent' : g'.content = ff.content :=
      (readValueLine_content hahead'.1 (hcontent ▸ hrounds) hread').trans hcontent
    rw [List.length_map, List.length_range] at hread'
    obtain ⟨hstored, hkept⟩ := @binRawStore_of_read source inst.data bytes byteBias _ _ hbytesRead
    -- the other segments
    obtain ⟨inst', ff', hrest, hcontentRest, hte, hdata, hmarkup, hplaced⟩ :=
      @ih left (ind + 1) (byteBias + subghzProtocolBinRawGetFullByte markup.bitCount)
        { inst with
          data := binRawStore inst.data byteBias bytes
          dataMarkup := Function.update inst.dataMarkup ind ⟨byteBias, markup.bitCount⟩ }
        g' hahead'' (hcontent' ▸ hrounds) (fun m hm => hne m (List.mem_cons_of_mem markup hm))
        (by omega) (by omega) (by omega) fun i hi =>
          (Function.update_of_ne (by omega) _ _).trans (hzero i (by omega))
    refine ⟨inst', ff', ?_, hcontentRest.trans hcontent', hte, fun i hi => ?_, fun i hi => ?_, ?_⟩
    · have htemp := bitCount_of_read hvalues hbits
      have hsum : (byteBias + subghzProtocolBinRawGetFullByte markup.bitCount) % 2 ^ 16 =
          byteBias + subghzProtocolBinRawGetFullByte markup.bitCount := Nat.mod_eq_of_lt (by omega)
      have hgo : ¬((!true) = true ∨ 20 ≤ ind ∨
          512 < byteBias + subghzProtocolBinRawGetFullByte markup.bitCount) := by
        simp only [Bool.not_true, Bool.false_eq_true, false_or]
        omega
      rw [binRawReadSegments]
      simp only [List.length_singleton] at hread
      rw [hread, Option.bind_some]
      dsimp only
      rw [htemp, hsum, if_neg hgo, hread', Option.bind_some]
      exact hrest
    · exact (hdata i (by omega)).trans (hkept i hi)
    · exact (hmarkup i (by omega)).trans (Function.update_of_ne (by omega) _ _)
    · have hhere : inst'.dataMarkup ind = ⟨byteBias, markup.bitCount⟩ :=
        (hmarkup ind (by omega)).trans (Function.update_self ..)
      have hleft' : 20 - ind = (20 - (ind + 1)) + 1 := by omega
      refine ⟨binRawSegments inst'.dataMarkup (20 - (ind + 1)) (ind + 1), ?_, fun i hi => ?_, hplaced⟩
      · rw [hleft', binRawSegments, hhere, if_pos hcount]
      · exact (hdata _ (by omega)).trans (hstored i hi)

/-! ### The size of the file -/

/-- What the encoder relies on for an entry of the file: the line is a line, and it is not long. -/
structure BinRAWEntry (data : FlipperStreamWriteData) : Prop where
  key : ValidKey data.key
  value : data.value.OneLine
  written : data.value ≠ .ignore ∧ data.value.Passed
  short : (entryLine data).bytes.length ≤ 4300000

lemma line_short {data : FlipperStreamWriteData} (hkey : data.key.length ≤ 32)
    (hcount : data.value.printed.length ≤ 65536) (htexts : ∀ t ∈ data.value.printed, t.length ≤ 64) :
    (entryLine data).bytes.length ≤ 4300000 :=
  Nat.le_trans (length_entryLine_le hkey hcount htexts) (by decide)

lemma binRAWEntry_uint32 {key : List UInt8} (hkey : ValidKey key ∧ key.length ≤ 32) (n : UInt32) :
    BinRAWEntry ⟨key, .uint32 [n]⟩ where
  key := hkey.1
  value := trivial
  written := ⟨nofun, Nat.one_lt_ofNat⟩
  short := by
    refine line_short hkey.2 (by decide : 1 ≤ 65536) fun t ht => ?_
    rw [List.mem_singleton.mp ht]
    exact Nat.le_trans (length_decimalText_le (by decide) (Nat.lt_trans n.toNat_lt (by decide)))
      (by decide : 10 ≤ 64)

lemma binRAWEntry_str {key text : List UInt8} (hkey : ValidKey key ∧ key.length ≤ 32)
    (htext : OneLine text ∧ 0 ∉ text) (hlen : text.length ≤ 64) :
    BinRAWEntry ⟨key, .str text⟩ where
  key := hkey.1
  value := htext.1
  written := ⟨nofun, htext.2⟩
  short := by
    refine line_short hkey.2 (by decide : 1 ≤ 65536) fun t ht => ?_
    rw [List.mem_singleton.mp ht]
    exact hlen

lemma binRAWEntry_float {key text : List UInt8} (hkey : ValidKey key ∧ key.length ≤ 32)
    (htext : OneLine text ∧ text.length ≤ 64) : BinRAWEntry ⟨key, .float [text]⟩ where
  key := hkey.1
  value := fun t ht => by
    rw [List.mem_singleton.mp ht]
    exact htext.1
  written := ⟨nofun, Nat.one_lt_ofNat⟩
  short := by
    refine line_short hkey.2 (by decide : 1 ≤ 65536) fun t ht => ?_
    rw [List.mem_singleton.mp ht]
    exact htext.2

lemma binRAWEntry_hex {key bytes : List UInt8} (hkey : ValidKey key ∧ key.length ≤ 32)
    (hlen : bytes.length < 65536) : BinRAWEntry ⟨key, .hex bytes⟩ where
  key := hkey.1
  value := trivial
  written := ⟨nofun, hlen⟩
  short := by
    refine line_short hkey.2 ?_ fun t ht => ?_
    · rw [FlipperStreamValue.printed, List.length_map]
      exact Nat.le_of_lt hlen
    · obtain ⟨n, -, rfl⟩ := List.mem_map.mp ht
      rw [length_hexText]
      decide

lemma header_entry {preset : SubGhzRadioPreset} {coordinates : SubGhzCoordinates}
    {data : FlipperStreamWriteData}
    (h : data ∈ subghzBlockGenericSerializeCommon preset coordinates) :
    BinRAWEntry data ∧ data.key ≠ binRawBitKey := by
  have hname : (OneLine (subghzBlockGenericGetPresetName preset.name) ∧
      0 ∉ subghzBlockGenericGetPresetName preset.name) ∧
      (subghzBlockGenericGetPresetName preset.name).length ≤ 64 := by
    rw [subghzBlockGenericGetPresetName]
    split_ifs <;> decide
  have hdata : (preset.data.take (preset.data.length % 65536)).length < 65536 := by
    rw [List.length_take]
    omega
  rw [subghzBlockGenericSerializeCommon] at h
  simp only [List.mem_append, List.mem_cons, List.not_mem_nil, or_false] at h
  rcases h with ((rfl | rfl | rfl | rfl) | h) | rfl | rfl | rfl
  · exact ⟨binRAWEntry_str (by decide) (by decide) (by decide), by decide⟩
  · exact ⟨binRAWEntry_uint32 (by decide) _, by decide⟩
  · exact ⟨binRAWEntry_uint32 (by decide) _, by dsimp only; decide⟩
  · exact ⟨binRAWEntry_str (by decide) hname.1 hname.2, by dsimp only; decide⟩
  · split_ifs at h
    · simp only [List.mem_cons, List.not_mem_nil, or_false] at h
      rcases h with rfl | rfl
      · exact ⟨binRAWEntry_str (by decide) (by decide) (by decide), by decide⟩
      · exact ⟨binRAWEntry_hex (by decide) hdata, by dsimp only; decide⟩
    · exact absurd h List.not_mem_nil
  · exact ⟨binRAWEntry_float (by decide) coordinates.latitude_text, by dsimp only; decide⟩
  · exact ⟨binRAWEntry_float (by decide) coordinates.longitude_text, by dsimp only; decide⟩
  · exact ⟨binRAWEntry_str (by decide) (by decide) (by decide), by decide⟩

lemma length_header_le (preset : SubGhzRadioPreset) (coordinates : SubGhzCoordinates) :
    (subghzBlockGenericSerializeCommon preset coordinates).length ≤ 9 := by
  rw [subghzBlockGenericSerializeCommon]
  split_ifs <;> simp

lemma binRawSegments_spec (dataMarkup : Nat → BinRAWMarkup) (left : Nat) : ∀ i,
    (∀ markup ∈ binRawSegments dataMarkup left i, markup.bitCount ≠ 0) ∧
      (binRawSegments dataMarkup left i).length ≤ left := by
  induction left with
  | zero => exact fun i => ⟨fun _ h => absurd h List.not_mem_nil, Nat.le_refl 0⟩
  | succ left ih =>
    intro i
    rw [binRawSegments]
    split_ifs with hbits
    · refine ⟨fun markup hmarkup => ?_, Nat.succ_le_succ (ih (i + 1)).2⟩
      rcases List.mem_cons.mp hmarkup with rfl | hmarkup
      · exact hbits
      · exact (ih (i + 1)).1 markup hmarkup
    · exact ⟨fun _ h => absurd h List.not_mem_nil, Nat.zero_le _⟩

lemma fullByte_le_binRawBytes {segments : List BinRAWMarkup} {markup : BinRAWMarkup}
    (h : markup ∈ segments) : subghzProtocolBinRawGetFullByte markup.bitCount ≤
      binRawBytes segments :=
  List.single_le_sum (fun _ _ => Nat.zero_le _) _ (List.mem_map_of_mem h)

/-! ### Saving and loading -/

lemma binRawItems_entry {inst : SubGhzProtocolDecoderBinRAW}
    (hsize : binRawBytes (binRawSegments inst.dataMarkup 20 0) ≤ 512)
    {data : FlipperStreamWriteData} (h : data ∈ binRawItems inst) : BinRAWEntry data := by
  rw [binRawItems, List.mem_cons, List.mem_cons, List.mem_flatMap] at h
  rcases h with rfl | rfl | ⟨markup, hmarkup, h⟩
  · exact binRAWEntry_uint32 (by decide) _
  · exact binRAWEntry_uint32 (by decide) _
  · have hfull := fullByte_le_binRawBytes hmarkup
    rw [binRawSegmentItems, List.mem_cons, List.mem_singleton] at h
    rcases h with rfl | rfl
    · exact binRAWEntry_uint32 (by decide) _
    · refine binRAWEntry_hex (by decide) ?_
      rw [List.length_map, List.length_range]
      omega

lemma length_segmentItems (data : Nat → BitVec 8) (segments : List BinRAWMarkup) :
    (segments.flatMap (binRawSegmentItems data)).length = 2 * segments.length := by
  induction segments with
  | nil => rfl
  | cons markup segments ih =>
    rw [List.flatMap_cons, List.length_append, ih, List.length_cons, binRawSegmentItems,
      List.length_cons, List.length_singleton]
    omega

def binRawEntries (inst : SubGhzProtocolDecoderBinRAW) (preset : SubGhzRadioPreset)
    (coordinates : SubGhzCoordinates) : List FlipperStreamWriteData :=
  subghzBlockGenericSerializeCommon preset coordinates ++ binRawItems inst

lemma binRawSerialize_eq {inst : SubGhzProtocolDecoderBinRAW}
    (hsize : binRawBytes (binRawSegments inst.dataMarkup 20 0) ≤ 512) (preset : SubGhzRadioPreset)
    (coordinates : SubGhzCoordinates) :
    (subghzProtocolDecoderBinRawSerialize inst preset coordinates).1 = true ∧
      (subghzProtocolDecoderBinRawSerialize inst preset coordinates).2.content =
        textOf ((binRawEntries inst preset coordinates).map entryLine) ∧
      Seekable (subghzProtocolDecoderBinRawSerialize inst preset coordinates).2 := by
  have hentry : ∀ data ∈ binRawEntries inst preset coordinates, BinRAWEntry data := by
    intro data hdata
    rcases List.mem_append.mp hdata with hdata | hdata
    · exact (header_entry hdata).1
    · exact binRawItems_entry hsize hdata
  have hwrite : subghzProtocolDecoderBinRawSerialize inst preset coordinates = _ :=
    writeValueLines_eq (fun data hdata => (hentry data hdata).written) File.created
  have hcontent : (subghzProtocolDecoderBinRawSerialize inst preset coordinates).2.content =
      textOf ((binRawEntries inst preset coordinates).map entryLine) := by
    rw [hwrite, File.write_content]
    exact overwrite_length [] _
  refine ⟨by rw [hwrite], hcontent, ?_⟩
  -- at most 9 entries of the header, two numbers and 40 entries of segments
  have hcount : (binRawEntries inst preset coordinates).length ≤ 51 := by
    have hheader := length_header_le preset coordinates
    have hsegments := (binRawSegments_spec inst.dataMarkup 20 0).2
    have hitems := length_segmentItems inst.data (binRawSegments inst.dataMarkup 20 0)
    rw [binRawEntries, binRawItems, List.length_append, List.length_cons, List.length_cons, hitems]
    omega
  have hlines : (textOf ((binRawEntries inst preset coordinates).map entryLine)).length ≤
      ((binRawEntries inst preset coordinates).map entryLine).length * 4300000 :=
    length_textOf_le fun l hl => by
      obtain ⟨data, hdata, rfl⟩ := List.mem_map.mp hl
      exact (hentry data hdata).short
  rw [List.length_map] at hlines
  rw [Seekable, hcontent]
  omega

lemma readValueLine_behindHeader {preset : SubGhzRadioPreset} {coordinates : SubGhzCoordinates}
    {items : List Item} {f : File}
    (h : AheadOf [] ((subghzBlockGenericSerializeCommon preset coordinates).map .entry ++ items) f)
    (rounds : Nat) :
    ∃ g, g.content = f.content ∧ AheadOf [] items g ∧
      readValueLine scanUint32
          ((subghzBlockGenericSerializeCommon preset coordinates).length + rounds) binRawBitKey 1
          false f =
        readValueLine scanUint32 rounds binRawBitKey 1 false g := by
  obtain ⟨g, hcontent, hahead, hseek⟩ := AheadOf.seek_others
    (fun data hdata =>
      ⟨SubGhzFileEncoderWorker.entryLine_valid (header_entry hdata).1.key (header_entry hdata).1.value,
        (header_entry hdata).2⟩) h rounds
  refine ⟨g, hcontent, hahead, ?_⟩
  rw [readValueLine, hseek]
  rfl

lemma binRawDeserialize_eq {inst : SubGhzProtocolDecoderBinRAW}
    (hsize : binRawBytes (binRawSegments inst.dataMarkup 20 0) ≤ 512) (preset : SubGhzRadioPreset)
    (coordinates : SubGhzCoordinates) (encoder : SubGhzProtocolEncoderBinRAW) {rounds : Nat}
    (hrounds :
      (subghzProtocolDecoderBinRawSerialize inst preset coordinates).2.content.length < rounds) :
    ∃ loaded, subghzProtocolEncoderBinRawDeserialize rounds encoder
        (subghzProtocolDecoderBinRawSerialize inst preset coordinates).2 =
          some (true, subghzProtocolEncoderBinRawGetUpload loaded) ∧
      loaded.te = inst.te ∧ loaded.sizeUpload = encoder.sizeUpload ∧
      BinRAWPlaced inst.data loaded.data 0 (binRawSegments inst.dataMarkup 20 0)
        (binRawSegments loaded.dataMarkup 20 0) := by
  obtain ⟨-, hcontent, hseekable⟩ := binRawSerialize_eq hsize preset coordinates
  set f := (subghzProtocolDecoderBinRawSerialize inst preset coordinates).2
  have hlines := SubGhzFileEncoderWorker.length_le_textOf
    ((binRawEntries inst preset coordinates).map entryLine)
  rw [← hcontent, List.length_map, binRawEntries, binRawItems, List.length_append, List.length_cons,
    List.length_cons] at hlines
  obtain ⟨r, rfl⟩ : ∃ r,
      rounds = (subghzBlockGenericSerializeCommon preset coordinates).length + (r + 2) :=
    ⟨rounds - (subghzBlockGenericSerializeCommon preset coordinates).length - 2, by omega⟩
  have hrewind {g : File} (hg : g.content = f.content) :
      fileStreamSeek g 0 .fromStart = (true, g.seek 0) := by
    have hlt : g.content.length < 2147483648 := hg ▸ hseekable
    rw [fileStreamSeek_rewind (by omega), if_pos (by omega)]
  -- the lines of the entries stand ahead
  have hstart : AheadOf [] ((subghzBlockGenericSerializeCommon preset coordinates).map .entry ++
      (binRawItems inst).map .entry) (f.seek 0) := by
    refine ⟨hseekable, [], skipped_nil, ?_⟩
    show f.content.drop (min 0 f.content.length) = _
    rw [Nat.zero_min, List.drop_zero, hcontent, List.nil_append, List.append_nil, binRawEntries,
      ← List.map_append, List.map_map]
    rfl
  obtain ⟨g₀, hcontent₀, hahead₀, hread₀⟩ := readValueLine_behindHeader hstart (r + 2)
  -- the number of bits
  obtain ⟨bits, g₁, hread₁, -, hahead₁⟩ := AheadOf.uint32 hahead₀
    ⟨validKey_bit, List.cons_ne_nil _ _, Nat.one_lt_ofNat⟩ false (r + 1)
  have hbit := hread₀.trans hread₁
  have hcontent₁ : g₁.content = f.content := readValueLine_content hstart.1 hrounds hbit
  -- the duration of a bit
  have hsum : (subghzBlockGenericSerializeCommon preset coordinates).length + (r + 2) =
      (subghzBlockGenericSerializeCommon preset coordinates).length + r + 2 := by omega
  rw [hsum] at hbit hrounds ⊢
  obtain ⟨te, g₂, hread₂, hte, hahead₂⟩ := AheadOf.uint32 hahead₁
    ⟨validKey_te, List.cons_ne_nil _ _, Nat.one_lt_ofNat⟩ false
      ((subghzBlockGenericSerializeCommon preset coordinates).length + r + 1)
  have hcontent₂ : g₂.content = f.content :=
    (readValueLine_content hahead₁.1 (hcontent₁ ▸ hrounds) hread₂).trans hcontent₁
  have hteRead : te[0]?.map UInt32.ofNat = some inst.te := by
    rw [← List.getElem?_map, hte]
    rfl
  -- the segments
  obtain ⟨hne, hcount⟩ := binRawSegments_spec inst.dataMarkup 20 0
  obtain ⟨loaded, g₃, hread₃, hcontent₃, ⟨hteLoaded, hsizeUpload⟩, -, -, hplaced⟩ :=
    @binRawReadSegments_eq inst.data _ (binRawSegments inst.dataMarkup 20 0) 21 0 0
      { encoder with
        dataCountBit := bits.getD 0 0 % 2 ^ 16
        te := (te[0]?.map UInt32.ofNat).getD encoder.te
        dataMarkup := fun _ => ⟨0, 0⟩ } g₂ hahead₂ (hcontent₂ ▸ hrounds) hne rfl (by omega) (by omega)
      fun _ _ => rfl
  -- the number of repeats, which is not in the file
  have hback := hrewind (hcontent₃.trans hcontent₂)
  have hseekable₃ : Seekable (g₃.seek 0) := by
    show g₃.content.length < _
    rw [hcontent₃, hcontent₂]
    exact hseekable
  obtain ⟨⟨⟨found, repeats⟩, g₄⟩, hread₄, -⟩ := @readValueLine_total _ _ hseekable₃
    ((subghzBlockGenericSerializeCommon preset coordinates).length + r + 2)
    (by rw [File.seek_content, hcontent₃, hcontent₂]; exact hrounds) scanUint32 binRawRepeatKey 1
    false
  refine ⟨{ loaded with
    repeatCount := (repeats[0]?.map UInt32.ofNat).getD loaded.repeatCount }, ?_, ?_, hsizeUpload, hplaced⟩
  · simp only [List.length_singleton] at hread₂
    rw [subghzProtocolEncoderBinRawDeserialize, hrewind rfl]
    simp only [hbit, hread₂, hread₃, hback, hread₄, Option.bind_some, Option.map_some, Bool.not_true,
      Bool.false_eq_true, if_false]
  · rw [hteRead] at hteLoaded
    exact hteLoaded

/-! ### The bits of all segments -/

lemma binRawBits_eq_nil_iff (data : Nat → BitVec 8) (dataMarkup : Nat → BinRAWMarkup) :
    binRawBits data dataMarkup = [] ↔ binRawSegments dataMarkup 20 0 = [] := by
  refine ⟨fun h => List.eq_nil_iff_forall_not_mem.mpr fun markup hmarkup => ?_, fun h => ?_⟩
  · have hbits := List.flatMap_eq_nil_iff.mp h markup hmarkup
    rw [BinRAWMarkup.bits, selectedBits, List.map_eq_nil_iff, List.range_eq_nil] at hbits
    exact (binRawSegments_spec dataMarkup 20 0).1 markup hmarkup hbits
  · rw [binRawBits, h, List.flatMap_nil]

/-- The transmission is saved and loaded, and the upload has the runs of the bits of all segments in
order, with their durations. -/
def BinRAWUploads (inst : SubGhzProtocolDecoderBinRAW) (preset : SubGhzRadioPreset)
    (coordinates : SubGhzCoordinates) (encoder : SubGhzProtocolEncoderBinRAW) (rounds : Nat) : Prop :=
  ∃ ff loaded upload, subghzProtocolDecoderBinRawSerialize inst preset coordinates = (true, ff) ∧
    subghzProtocolEncoderBinRawDeserialize rounds encoder ff = some (true, loaded) ∧
    loaded.upload = some (.done upload) ∧
    upload.map (fun e => (e.1, e.2.toNat)) =
      (bitRuns (binRawBits inst.data inst.dataMarkup)).map fun run =>
        (run.1, run.2 * inst.te.toNat)

lemma binRawUploads_iff_upload {inst : SubGhzProtocolDecoderBinRAW}
    (hsize : binRawBytes (binRawSegments inst.dataMarkup 20 0) ≤ 512) (preset : SubGhzRadioPreset)
    (coordinates : SubGhzCoordinates) {encoder : SubGhzProtocolEncoderBinRAW}
    (hruns : (bitRuns (binRawBits inst.data inst.dataMarkup)).length ≤ encoder.sizeUpload)
    {rounds : Nat} (hrounds :
      (subghzProtocolDecoderBinRawSerialize inst preset coordinates).2.content.length < rounds) :
    ∃ upload, (BinRAWUploads inst preset coordinates encoder rounds ↔
        upload.map (fun e => (e.1, e.2.toNat)) =
          (bitRuns (binRawBits inst.data inst.dataMarkup)).map fun run =>
            (run.1, run.2 * inst.te.toNat)) ∧
      (binRawBits inst.data inst.dataMarkup ≠ [] → upload =
        (bitRuns (binRawBits inst.data inst.dataMarkup)).map (runEntry inst.te.toBitVec)) ∧
      (binRawBits inst.data inst.dataMarkup = [] → upload.length = 1) := by
  obtain ⟨loaded, hload, hte, hsizeUpload, hplaced⟩ :=
    binRawDeserialize_eq hsize preset coordinates encoder hrounds
  obtain ⟨hbits, hnone⟩ := getUpload_placed hplaced hsize (hsizeUpload ▸ hruns)
  have hsaved : subghzProtocolDecoderBinRawSerialize inst preset coordinates =
      (true, (subghzProtocolDecoderBinRawSerialize inst preset coordinates).2) :=
    Prod.ext (binRawSerialize_eq hsize preset coordinates).1 rfl
  have hiff {upload : List (Bool × BitVec 30)}
      (hupload : (subghzProtocolEncoderBinRawGetUpload loaded).upload = some (.done upload)) :
      BinRAWUploads inst preset coordinates encoder rounds ↔
        upload.map (fun e => (e.1, e.2.toNat)) =
          (bitRuns (binRawBits inst.data inst.dataMarkup)).map fun run =>
            (run.1, run.2 * inst.te.toNat) := by
    refine ⟨?_, fun h => ⟨_, _, upload, hsaved, hload, hupload, h⟩⟩
    rintro ⟨ff, loaded', upload', hsaved', hload', hupload', h⟩
    obtain rfl := (Prod.ext_iff.mp (hsaved.symm.trans hsaved')).2
    obtain rfl := (Prod.ext_iff.mp (Option.some.inj (hload.symm.trans hload'))).2
    obtain rfl := SubGhzUpload.done.inj (Option.some.inj (hupload.symm.trans hupload'))
    exact h
  by_cases hempty : binRawBits inst.data inst.dataMarkup = []
  · obtain ⟨entry, hupload⟩ := hnone hempty
    exact ⟨[entry], hiff hupload, fun h => absurd hempty h, fun _ => rfl⟩
  · have hupload := hbits hempty
    rw [hte] at hupload
    exact ⟨_, hiff hupload, fun _ => rfl, fun h => absurd h hempty⟩

/-- A saved transmission that is loaded has an upload with the runs of its bits exactly if there is a
segment, and no run is longer than the 30 bits of an entry hold. -/
theorem binRaw_uploads_iff (inst : SubGhzProtocolDecoderBinRAW) (preset : SubGhzRadioPreset)
    (coordinates : SubGhzCoordinates) (encoder : SubGhzProtocolEncoderBinRAW) (rounds : Nat)
    (hsize : binRawBytes (binRawSegments inst.dataMarkup 20 0) ≤ 512)
    (hruns : (bitRuns (binRawBits inst.data inst.dataMarkup)).length ≤ encoder.sizeUpload)
    (hrounds :
      (subghzProtocolDecoderBinRawSerialize inst preset coordinates).2.content.length < rounds) :
    BinRAWUploads inst preset coordinates encoder rounds ↔
      binRawSegments inst.dataMarkup 20 0 ≠ [] ∧
        ∀ run ∈ bitRuns (binRawBits inst.data inst.dataMarkup),
          run.2 * inst.te.toNat < 2 ^ 30 := by
  obtain ⟨upload, hiff, hbits, hnone⟩ :=
    binRawUploads_iff_upload hsize preset coordinates hruns hrounds
  rw [hiff, Ne, ← binRawBits_eq_nil_iff inst.data]
  by_cases hempty : binRawBits inst.data inst.dataMarkup = []
  · refine iff_of_false (fun h => ?_) fun h => h.1 hempty
    have hlength := congrArg List.length h
    rw [List.length_map, List.length_map, hnone hempty, hempty] at hlength
    exact absurd hlength (by decide)
  · rw [hbits hempty, List.map_map]
    constructor
    · intro h
      refine ⟨hempty, fun run hrun => ?_⟩
      have hduration : (runEntry inst.te.toBitVec run).2.toNat = run.2 * inst.te.toNat :=
        (Prod.ext_iff.mp (List.map_inj_left.mp h run hrun)).2
      rw [← hduration]
      exact (runEntry inst.te.toBitVec run).2.isLt
    · rintro ⟨-, hshort⟩
      refine List.map_congr_left fun run hrun => Prod.ext rfl ?_
      exact toNat_runEntry_of_lt (hshort run hrun)

/-- A transmission with two segments of 5 and 9 bits, the second one first in the array. -/
def binRawTwoSegments : SubGhzProtocolDecoderBinRAW where
  dataCountBit := 14
  data := fun i => if i = 2 then 0x15 else 0x81
  dataMarkup := fun i => if i = 0 then ⟨2, 5⟩ else if i = 1 then ⟨0, 9⟩ else ⟨0, 0⟩
  te := 400

def binRawNoSegments : SubGhzProtocolDecoderBinRAW where
  dataCountBit := 0
  data := fun _ => 0
  dataMarkup := fun _ => ⟨0, 0⟩
  te := 400

/-- The coordinates of a device without a position. -/
def zeroCoordinates : SubGhzCoordinates where
  latitude := ascii ['0', '.', '0', '0', '0', '0', '0', '0']
  longitude := ascii ['0', '.', '0', '0', '0', '0', '0', '0']
  latitude_text := by decide
  longitude_text := by decide

/-- Two segments. -/
theorem binRaw_uploads_iff_two :
    BinRAWUploads binRawTwoSegments ⟨ascii ['A', 'M', '6', '5', '0'], 433920000, []⟩ zeroCoordinates
        subghzProtocolEncoderBinRawAlloc 500 ↔
      binRawSegments binRawTwoSegments.dataMarkup 20 0 ≠ [] ∧
        ∀ run ∈ bitRuns (binRawBits binRawTwoSegments.data binRawTwoSegments.dataMarkup),
          run.2 * binRawTwoSegments.te.toNat < 2 ^ 30 :=
  binRaw_uploads_iff binRawTwoSegments ⟨ascii ['A', 'M', '6', '5', '0'], 433920000, []⟩
    zeroCoordinates subghzProtocolEncoderBinRawAlloc 500 (by decide) (by decide) (by decide +kernel)

/-- Without a segment the upload has an entry for a bit that is in no segment. -/
theorem not_binRaw_uploads :
    ¬∀ (inst : SubGhzProtocolDecoderBinRAW) (preset : SubGhzRadioPreset)
      (coordinates : SubGhzCoordinates) (rounds : Nat),
      binRawBytes (binRawSegments inst.dataMarkup 20 0) ≤ 512 →
      (bitRuns (binRawBits inst.data inst.dataMarkup)).length ≤
        subghzProtocolEncoderBinRawAlloc.sizeUpload →
      (subghzProtocolDecoderBinRawSerialize inst preset coordinates).2.content.length < rounds →
      BinRAWUploads inst preset coordinates subghzProtocolEncoderBinRawAlloc rounds := by
  intro hall
  have hsize : binRawBytes (binRawSegments binRawNoSegments.dataMarkup 20 0) ≤ 512 := by decide
  have hempty : binRawBits binRawNoSegments.data binRawNoSegments.dataMarkup = [] := rfl
  have hruns : (bitRuns (binRawBits binRawNoSegments.data binRawNoSegments.dataMarkup)).length ≤
      subghzProtocolEncoderBinRawAlloc.sizeUpload := by decide
  have hrounds : (subghzProtocolDecoderBinRawSerialize binRawNoSegments ⟨[], 0, []⟩
      zeroCoordinates).2.content.length < 500 := by decide +kernel
  obtain ⟨upload, hiff, -, hnone⟩ :=
    binRawUploads_iff_upload hsize ⟨[], 0, []⟩ zeroCoordinates hruns hrounds
  have hlength := congrArg List.length
    (hiff.mp (hall binRawNoSegments ⟨[], 0, []⟩ zeroCoordinates 500 hsize hruns hrounds))
  rw [List.length_map, List.length_map, hnone hempty, hempty] at hlength
  exact absurd hlength (by decide)

end FlipperZero
