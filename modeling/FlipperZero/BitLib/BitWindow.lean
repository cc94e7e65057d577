import FlipperZero.BitLib.ParityRoundTrip

/-!
# Windows of bits

Decoders of bit streams push the bits one by one into an array, whose first bit drops out. The array
is read as one word. `bit_lib_remove_bit_every_nth` works in the array itself and leaves the bits
alone that lie outside of its range, or behind the bits that remain.
-/

namespace FlipperZero

open Foundation

/-! ### More of the library -/

/-- A byte of `bit_lib_push_bit` takes the first bit of the next one. -/
def bitLibShiftByte (data : Memory) (i : Nat) : Memory :=
  Function.update data i (data i <<< 1 ||| (data (i + 1) >>> 7 &&& 1#8))

def bitLibPushBit (data : Memory) (dataSize : Nat) (bit : Bool) : Memory :=
  let lastIndex := dataSize - 1
  let data := (List.range lastIndex).foldl bitLibShiftByte data
  Function.update data lastIndex (data lastIndex <<< 1 ||| (BitVec.ofBool bit).setWidth 8)

def bitLibCopyBits (data : Memory) (position length : Nat) (source : Memory)
    (sourcePosition : Nat) : Memory :=
  (List.range length).foldl (fun data i =>
    bitLibSetBit data (position + i) (bitLibGetBit source (sourcePosition + i))) data

/-- `bit_lib_get_bits_16` for at most 16 bits. -/
def bitLibGetBits16 (data : Memory) (position length : Nat) : BitVec 16 :=
  if length ≤ 8 then (bitLibGetBits data position length).setWidth 16
  else
    (bitLibGetBits data position 8).setWidth 16 <<< (length - 8) |||
      (bitLibGetBits data (position + 8) (length - 8)).setWidth 16

/-- A round of the inner loop of `bit_lib_crc8`. -/
def bitLibCrc8Round (polynom crc : BitVec 8) : BitVec 8 :=
  if crc.getLsbD 7 then crc <<< 1 ^^^ polynom else crc <<< 1

def bitLibCrc8 (data : List (BitVec 8)) (polynom init : BitVec 8) (refIn refOut : Bool)
    (xorOut : BitVec 8) : BitVec 8 :=
  let crc := data.foldl (fun crc byte =>
    let byte := if refIn then byte.reverse else byte
    (bitLibCrc8Round polynom)^[8] (crc ^^^ byte)) init
  (if refOut then crc.reverse else crc) ^^^ xorOut

/-- The first bits of an array as a word, the first one highest. -/
def bitLibBits (n : Nat) (data : Memory) : BitVec n := packed n (bitLibGetBit data) n

/-! ### The word of an array -/

variable {data : Memory} {n i k : Nat}

lemma getLsbD_bitLibBits (data : Memory) (hi : i < n) :
    (bitLibBits n data).getLsbD i = bitLibGetBit data (n - 1 - i) := by
  rw [bitLibBits, getLsbD_packed _ hi, decide_eq_true hi, Bool.true_and]

lemma bitLibGetBit_eq_getLsbD (data : Memory) (hk : k < n) :
    bitLibGetBit data k = (bitLibBits n data).getLsbD (n - 1 - k) := by
  have hsub : n - 1 - (n - 1 - k) = k := by omega
  rw [getLsbD_bitLibBits data (by omega), hsub]

lemma bitLibBits_zero {m : Nat} (h : ∀ j < m, data j = 0) : bitLibBits (8 * m) data = 0 := by
  apply BitVec.eq_of_getLsbD_eq
  intro i hi
  rw [getLsbD_bitLibBits data hi, bitLibGetBit_eq, h _ (by omega)]
  simp

lemma bitLibGetBit_copyBits (data source : Memory) (position length sourcePosition q : Nat) :
    bitLibGetBit (bitLibCopyBits data position length source sourcePosition) q =
      if position ≤ q ∧ q < position + length then
        bitLibGetBit source (sourcePosition + (q - position))
      else bitLibGetBit data q :=
  bitLibGetBit_foldl (fun i => bitLibGetBit source (sourcePosition + i)) data position length q

lemma getMsbD_bitLibBits (data : Memory) (hk : k < n) :
    (bitLibBits n data).getMsbD k = bitLibGetBit data k := by
  rw [BitVec.getMsbD, decide_eq_true hk, Bool.true_and, ← bitLibGetBit_eq_getLsbD data hk]

lemma extractLsb'_bitLibBits (data : Memory) {m j : Nat} (hj : j < m) :
    (bitLibBits (8 * m) data).extractLsb' (8 * (m - 1 - j)) 8 = data j := by
  apply BitVec.eq_of_getLsbD_eq
  intro i hi
  have hbyte : (8 * m - 1 - (8 * (m - 1 - j) + i)) / 8 = j := by omega
  have hbit : 7 - (8 * m - 1 - (8 * (m - 1 - j) + i)) % 8 = i := by omega
  rw [BitVec.getLsbD_extractLsb', decide_eq_true hi, Bool.true_and,
    getLsbD_bitLibBits data (by omega), bitLibGetBit_eq, hbyte, hbit]

lemma bitLibGetBits_byte (data : Memory) (j : Nat) : bitLibGetBits data (8 * j) 8 = data j := by
  have hmod : 8 * j % 8 = 0 := Nat.mul_mod_right 8 j
  have hdiv : 8 * j / 8 = j := Nat.mul_div_cancel_left j (by decide)
  rw [bitLibGetBits, if_pos hmod, hdiv, Nat.sub_self, BitVec.ushiftRight_zero]

/-! ### Parity of blocks -/

/-- Checks that do not crash are all made up to the first one that fails. -/
lemma bitLibTestBlocks_some (f : Nat → Bool) (is : List Nat) :
    bitLibTestBlocks (fun i => some (f i)) is = some (is.all f) := by
  induction is with
  | nil => rfl
  | cons i is ih =>
    rw [bitLibTestBlocks, ih, List.all_cons]
    cases f i <;> rfl

lemma bitLibTestParity_odd (data : Memory) (position : Nat) (length : BitVec 8)
    {parityLength : BitVec 8} (hpos : parityLength ≠ 0) (hle : parityLength.toNat ≤ 31) :
    bitLibTestParity data position length .odd parityLength =
      some ((List.range (length.toNat / parityLength.toNat)).all fun i =>
        !xorBelow (fun k => bitLibGetBit data (position + i * parityLength.toNat + k))
          parityLength.toNat) := by
  have hparity (f : Nat → Bool) (m : Nat) (hm : m ≤ 31) : parity (packed 32 f m) = xorBelow f m := by
    induction m with
    | zero =>
      have hzero : parity (0 : BitVec 32) = false := by decide
      exact hzero
    | succ m ih =>
      rw [parity_packed_succ f (Nat.le_of_succ_le hm), ih (Nat.le_of_succ_le hm), xorBelow,
        Bool.xor_comm]
  have hblock (start : Nat) : bitLibTestBlock data start .odd parityLength.toNat =
      some (!xorBelow (fun k => bitLibGetBit data (start + k)) parityLength.toNat) := by
    rw [bitLibTestBlock, bitLibGetBits32_eq data start (Nat.le_succ_of_le hle), Option.bind_some,
      bitLibTestParity32, hparity _ _ hle]
  rw [bitLibTestParity, if_neg hpos]
  simp only [hblock]
  exact bitLibTestBlocks_some _ _

/-! ### Pushing a bit -/

lemma pushed_bytes (data : Memory) (m j : Nat) :
    (List.range m).foldl bitLibShiftByte data j =
      if j < m then data j <<< 1 ||| (data (j + 1) >>> 7 &&& 1#8) else data j := by
  induction m generalizing j with
  | zero => rw [List.range_zero, List.foldl_nil, if_neg (Nat.not_lt_zero j)]
  | succ m ih =>
    rw [List.range_succ, List.foldl_append, List.foldl_cons, List.foldl_nil, bitLibShiftByte]
    by_cases hj : j = m
    · subst hj
      rw [Function.update_self, ih, ih, if_neg (Nat.lt_irrefl j), if_neg (by omega),
        if_pos (Nat.lt_succ_self j)]
    · rw [Function.update_of_ne hj, ih]
      by_cases hlt : j < m
      · rw [if_pos hlt, if_pos (Nat.lt_succ_of_lt hlt)]
      · rw [if_neg hlt, if_neg (by omega)]

lemma getLsbD_shiftLeft_one_or (x y : BitVec 8) (hy : ∀ i, i ≠ 0 → y.getLsbD i = false) (hi : i < 8) :
    (x <<< 1 ||| y).getLsbD i = if i = 0 then y.getLsbD 0 else x.getLsbD (i - 1) := by
  rw [BitVec.getLsbD_or, BitVec.getLsbD_shiftLeft]
  cases i with
  | zero => simp
  | succ i =>
    rw [hy (i + 1) (Nat.succ_ne_zero i), if_neg (Nat.succ_ne_zero i)]
    simp [hi]

/-- A bit that is pushed comes in behind the last one, and the others move up. -/
lemma bitLibGetBit_pushBit (data : Memory) (m : Nat) (bit : Bool) (hk : k < 8 * (m + 1)) :
    bitLibGetBit (bitLibPushBit data (m + 1) bit) k =
      if k + 1 = 8 * (m + 1) then bit else bitLibGetBit data (k + 1) := by
  have hhigh (x : BitVec 8) (i : Nat) (hi : i ≠ 0) : (x >>> 7 &&& 1#8).getLsbD i = false := by
    rw [BitVec.getLsbD_and, BitVec.getLsbD_one]
    simp [hi]
  have hbit (i : Nat) (hi : i ≠ 0) : ((BitVec.ofBool bit).setWidth 8).getLsbD i = false := by
    simp [hi]
  rw [bitLibGetBit_eq, bitLibGetBit_eq, bitLibPushBit, Nat.add_sub_cancel]
  by_cases hbyte : k / 8 = m
  · -- the last byte takes the new bit
    rw [hbyte, Function.update_self, pushed_bytes, if_neg (Nat.lt_irrefl m),
      getLsbD_shiftLeft_one_or _ _ hbit (by omega)]
    by_cases hlast : k + 1 = 8 * (m + 1)
    · rw [if_pos (by omega), if_pos hlast]
      simp
    · have hnext : (k + 1) / 8 = m := by omega
      have hsub : 7 - k % 8 - 1 = 7 - (k + 1) % 8 := by omega
      rw [if_neg (by omega), if_neg hlast, hnext, hsub]
  · rw [Function.update_of_ne hbyte, pushed_bytes, if_pos (by omega),
      getLsbD_shiftLeft_one_or _ _ (hhigh _) (by omega), if_neg (by omega : ¬k + 1 = 8 * (m + 1))]
    by_cases hcarry : 7 - k % 8 = 0
    · have hnext : (k + 1) / 8 = k / 8 + 1 := by omega
      have hfirst : 7 - (k + 1) % 8 = 7 := by omega
      rw [if_pos hcarry, hnext, hfirst, BitVec.getLsbD_and, BitVec.getLsbD_ushiftRight]
      simp
    · have hnext : (k + 1) / 8 = k / 8 := by omega
      have hsub : 7 - k % 8 - 1 = 7 - (k + 1) % 8 := by omega
      rw [if_neg hcarry, hnext, hsub]

lemma bitLibBits_pushBit (data : Memory) (m : Nat) (bit : Bool) :
    bitLibBits (8 * (m + 1)) (bitLibPushBit data (m + 1) bit) =
      shiftIn (bitLibBits (8 * (m + 1)) data) bit := by
  apply BitVec.eq_of_getLsbD_eq
  intro i hi
  rw [getLsbD_bitLibBits _ hi, bitLibGetBit_pushBit data m bit (by omega), getLsbD_shiftIn _ _ hi]
  by_cases hzero : i = 0
  · rw [if_pos hzero, if_pos (by omega)]
  · have hsub : 8 * (m + 1) - 1 - i + 1 = 8 * (m + 1) - 1 - (i - 1) := by omega
    rw [if_neg hzero, if_neg (by omega), getLsbD_bitLibBits _ (by omega), hsub]

/-! ### Adding parity bits behind other bits -/

lemma bitLibAddWord_before {source : Memory} {position destPosition parityLength q : Nat}
    {kind : BitLibParity} {s s' : BitLibAddParity} (hq : q < destPosition)
    (h : bitLibAddWord source position destPosition parityLength kind s = some s') :
    bitLibGetBit s'.dest q = bitLibGetBit s.dest q := by
  have hbits (m : Nat) (s : BitLibAddParity) :
      bitLibGetBit ((List.range m).foldl (fun s bit =>
        bitLibAddBit source destPosition s (position + bit)) s).dest q = bitLibGetBit s.dest q := by
    induction m with
    | zero => rfl
    | succ m ih =>
      rw [List.range_succ, List.foldl_append, List.foldl_cons, List.foldl_nil, bitLibAddBit,
        bitLibGetBit_setBit, if_neg (by omega), ih]
  obtain ⟨bit, -, rfl⟩ := Option.map_eq_some_iff.mp h
  rw [bitLibGetBit_setBit, if_neg (by omega), hbits]

lemma bitLibAddParity_before {source dest dest' : Memory} {position destPosition bits q : Nat}
    {sourceLength parityLength : BitVec 8} {kind : BitLibParity} (hq : q < destPosition)
    (h : bitLibAddParity source position dest destPosition sourceLength parityLength kind =
      some (dest', bits)) :
    bitLibGetBit dest' q = bitLibGetBit dest q := by
  have hwords (words : List Nat) (s s' : BitLibAddParity) (m : Nat)
      (hs : words.foldlM (fun s i => bitLibAddWord source (position + i * m) destPosition
        parityLength.toNat kind s) s = some s') : bitLibGetBit s'.dest q = bitLibGetBit s.dest q := by
    induction words generalizing s with
    | nil =>
      obtain rfl : s = s' := Option.some.inj hs
      rfl
    | cons i words ih =>
      rw [List.foldlM_cons] at hs
      obtain ⟨t, hword, hrest⟩ := Option.bind_eq_some_iff.mp hs
      rw [ih t hrest, bitLibAddWord_before hq hword]
  rw [bitLibAddParity] at h
  split_ifs at h
  · obtain ⟨rfl, -⟩ := Prod.mk.inj (Option.some.inj h)
    rfl
  · obtain ⟨s, hs, hpair⟩ := Option.map_eq_some_iff.mp h
    obtain ⟨rfl, -⟩ := Prod.mk.inj hpair
    exact hwords _ _ _ _ hs

/-! ### Removing bits in place -/

variable {position : Nat}

lemma bitLibRemoveRound_outside {counter : Nat} {s s' : BitLibRemove}
    (h : bitLibRemoveRound position n s counter = some s') :
    s.resultCounter ≤ s'.resultCounter ∧
      ∀ q, q < position + s.resultCounter ∨ position + s'.resultCounter ≤ q →
        bitLibGetBit s'.data q = bitLibGetBit s.data q := by
  rw [bitLibRemoveRound] at h
  generalize hread : (if (counter + 1) % n ≠ 0 then
      { s with
        bitBuffer := shiftIn s.bitBuffer (bitLibGetBit s.data (position + counter))
        bitCounter := s.bitCounter + 1 }
    else s : BitLibRemove) = t at h
  have hdata : t.data = s.data ∧ t.resultCounter = s.resultCounter := by
    rw [← hread]
    split_ifs
    · exact ⟨rfl, rfl⟩
    · exact ⟨rfl, rfl⟩
  split_ifs at h with hfull
  · obtain ⟨data', hset, rfl⟩ := Option.map_eq_some_iff.mp h
    obtain ⟨_, hwritten, hbits⟩ := bitLibSetBits_cases t.data (position + t.resultCounter)
      t.bitBuffer (by decide : 0 < 8) (Nat.le_refl 8)
    obtain rfl := Option.some.inj (hset.symm.trans hwritten)
    rw [hdata.2] at hbits ⊢
    refine ⟨Nat.le_add_right _ 8, fun q hq => ?_⟩
    dsimp only at hq ⊢
    rw [hbits, if_neg (by omega), hdata.1]
  · obtain rfl := Option.some.inj h
    rw [hdata.2]
    exact ⟨Nat.le_refl _, fun q _ => by rw [hdata.1]⟩

lemma bitLibRemoveRounds_outside {counters : List Nat} {s s' : BitLibRemove}
    (h : counters.foldlM (bitLibRemoveRound position n) s = some s') :
    s.resultCounter ≤ s'.resultCounter ∧
      ∀ q, q < position + s.resultCounter ∨ position + s'.resultCounter ≤ q →
        bitLibGetBit s'.data q = bitLibGetBit s.data q := by
  induction counters generalizing s with
  | nil =>
    obtain rfl : s = s' := Option.some.inj h
    exact ⟨Nat.le_refl _, fun _ _ => rfl⟩
  | cons counter counters ih =>
    rw [List.foldlM_cons] at h
    obtain ⟨t, hround, hrest⟩ := Option.bind_eq_some_iff.mp h
    obtain ⟨hle, hsame⟩ := bitLibRemoveRound_outside hround
    obtain ⟨hle', hsame'⟩ := ih hrest
    refine ⟨Nat.le_trans hle hle', fun q hq => ?_⟩
    rw [hsame' q (by omega), hsame q (by omega)]

/-- `bit_lib_remove_bit_every_nth` moves the bits that remain together and leaves all others as they
are. -/
lemma bitLibRemoveBitEveryNth_bits (data : Memory) (position : Nat) (length : BitVec 8)
    {n : BitVec 8} (hn : 2 ≤ n.toNat) :
    ∃ data', bitLibRemoveBitEveryNth data position length n =
        some (data', kept n.toNat length.toNat) ∧
      ∀ q, bitLibGetBit data' q =
        if position ≤ q ∧ q < position + kept n.toNat length.toNat then
          bitLibGetBit data (position + keptIndex n.toNat (q - position))
        else bitLibGetBit data q := by
  obtain ⟨data', hremoved, hmoved⟩ := bitLibRemoveBitEveryNth_cases data position length hn
  refine ⟨data', hremoved, fun q => ?_⟩
  split_ifs with hq
  · have hkept := hmoved (q - position) (by omega)
    rwa [Nat.add_sub_cancel' hq.1] at hkept
  · have hne : ¬(n = 0 ∧ length ≠ 0) := by
      rintro ⟨rfl, -⟩
      exact absurd hn (by decide)
    rw [bitLibRemoveBitEveryNth, if_neg hne] at hremoved
    obtain ⟨s, hrounds, hlast⟩ := Option.bind_eq_some_iff.mp hremoved
    obtain ⟨-, hsame⟩ := bitLibRemoveRounds_outside hrounds
    dsimp only at hlast hsame
    split_ifs at hlast with hrest
    · obtain ⟨data'', hset, hpair⟩ := Option.bind_eq_some_iff.mp hlast
      obtain ⟨rfl, hcount⟩ := Prod.mk.inj (Option.some.inj hpair)
      by_cases hle : s.bitCounter ≤ 8
      · obtain ⟨_, hwritten, hbits⟩ := bitLibSetBits_cases s.data (position + s.resultCounter)
          s.bitBuffer (Nat.pos_of_ne_zero hrest) hle
        obtain rfl := Option.some.inj (hset.symm.trans hwritten)
        rw [hbits, if_neg (by omega), hsame q (by omega)]
      · rw [bitLibSetBits, if_neg fun h => hle h.2] at hset
        cases hset
    · obtain ⟨rfl, hcount⟩ := Prod.mk.inj (Option.some.inj hlast)
      exact hsame q (by omega)

end FlipperZero
