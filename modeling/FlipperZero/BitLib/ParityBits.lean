import FlipperZero.BitLib.BitLib

/-!
# What the parity functions do to the bits

Seen as a string of bits, an array is changed at one position by `bit_lib_set_bit` and at the
positions of a field by `bit_lib_set_bits`. `bit_lib_add_parity` leaves a string in blocks, whose
last bits are the parity bits and whose others are the bits of the source, and
`bit_lib_remove_bit_every_nth` moves the others together, over bits that it has read.
-/

namespace FlipperZero

open Foundation

variable {data dest dest' : Memory} {position destPosition : Nat}

/-! ### Single bits -/

lemma getLsbD_one_shiftLeft {i j : Nat} (hj : j < 8) :
    (1#8 <<< j).getLsbD i = decide (i = j) := by
  rw [BitVec.getLsbD_shiftLeft, BitVec.getLsbD_one]
  by_cases hi : i = j
  · subst hi
    simp [hj]
  · simp only [hi, decide_false]
    simp
    omega

lemma bitLibGetBit_eq (data : Memory) (position : Nat) :
    bitLibGetBit data position = (data (position / 8)).getLsbD (7 - position % 8) := by
  rw [bitLibGetBit, BitVec.getLsbD_ushiftRight, Nat.add_zero]

lemma bitLibGetBit_setBit (data : Memory) (position q : Nat) (bit : Bool) :
    bitLibGetBit (bitLibSetBit data position bit) q =
      if q = position then bit else bitLibGetBit data q := by
  rw [bitLibGetBit_eq, bitLibGetBit_eq, bitLibSetBit]
  by_cases hbyte : q / 8 = position / 8
  · rw [hbyte, Function.update_self]
    have hq : 7 - q % 8 < 8 := by omega
    have hsame : 7 - q % 8 = 7 - position % 8 ↔ q = position := by omega
    cases bit with
    | true =>
      rw [if_pos rfl, BitVec.getLsbD_or, getLsbD_one_shiftLeft (by omega)]
      simp only [hsame]
      split_ifs with h <;> simp [h]
    | false =>
      rw [if_neg Bool.false_ne_true, BitVec.getLsbD_and, BitVec.getLsbD_not,
        getLsbD_one_shiftLeft (by omega)]
      simp only [hsame]
      split_ifs with h <;> simp [h, hq]
  · have hne : q ≠ position := fun h => hbyte (congrArg (· / 8) h)
    rw [Function.update_of_ne hbyte, if_neg hne]

lemma bitLibGetBit_foldl (f : Nat → Bool) (data : Memory) (position n q : Nat) :
    bitLibGetBit ((List.range n).foldl (fun data i => bitLibSetBit data (position + i) (f i)) data) q =
      if position ≤ q ∧ q < position + n then f (q - position) else bitLibGetBit data q := by
  induction n with
  | zero =>
    rw [List.range_zero, List.foldl_nil, if_neg fun h => Nat.not_lt.mpr h.1 h.2]
  | succ n ih =>
    rw [List.range_succ, List.foldl_append, List.foldl_cons, List.foldl_nil, bitLibGetBit_setBit, ih]
    by_cases hlast : q = position + n
    · rw [if_pos hlast, if_pos (by omega), hlast, Nat.add_sub_cancel_left]
    · rw [if_neg hlast]
      by_cases hin : position ≤ q ∧ q < position + n
      · rw [if_pos hin, if_pos ⟨hin.1, Nat.lt_succ_of_lt hin.2⟩]
      · rw [if_neg hin, if_neg (by omega)]

lemma bitLibSetBits_cases (data : Memory) (position : Nat) (byte : BitVec 8) {length : Nat}
    (hlength : 0 < length) (hle : length ≤ 8) :
    ∃ data', bitLibSetBits data position byte length = some data' ∧
      ∀ q, bitLibGetBit data' q =
        if position ≤ q ∧ q < position + length then byte.getLsbD (length - 1 - (q - position))
        else bitLibGetBit data q := by
  refine ⟨_, if_pos ⟨hlength, hle⟩, fun q => ?_⟩
  exact bitLibGetBit_foldl (fun i => byte.getLsbD (length - 1 - i)) data position length q

/-! ### Adding parity bits -/

/-- The word of the source that goes into a block. -/
def sourceWord (data : Memory) (position wordLength i : Nat) : BitVec 32 :=
  packed 32 (fun k => bitLibGetBit data (position + i * wordLength + k)) wordLength

/-- The bit behind a word: for even and for odd parity it makes the number of ones in the block
even and odd. -/
def blockBit (kind : BitLibParity) (word : BitVec 32) : Bool :=
  match kind with
  | .even    => parity word
  | .odd     => !parity word
  | .always0 => false
  | .always1 => true

lemma bitLibParityBit_eq (word : BitVec 32) (kind : BitLibParity) :
    bitLibParityBit word kind = some (blockBit kind word) := by
  cases kind <;> simp [bitLibParityBit, bitLibTestParity32, blockBit]

/-- The first bits of a word are copied, and shifted into the parity word. -/
structure WordCopied (data : Memory) (destPosition start n : Nat) (s s' : BitLibAddParity) : Prop where
  parityWord : s'.parityWord = packed 32 (fun k => bitLibGetBit data (start + k)) n
  j : s'.j = s.j + n
  bitCount : s'.bitCount = s.bitCount
  dest : ∀ q, bitLibGetBit s'.dest q =
    if destPosition + s.j ≤ q ∧ q < destPosition + s.j + n then
      bitLibGetBit data (start + (q - (destPosition + s.j)))
    else bitLibGetBit s.dest q

lemma WordCopied.succ {start n : Nat} {s s' : BitLibAddParity}
    (h : WordCopied data destPosition start n s s') :
    WordCopied data destPosition start (n + 1) s (bitLibAddBit data destPosition s' (start + n)) where
  parityWord := by rw [packed, ← h.parityWord, bitLibAddBit]
  j := by rw [bitLibAddBit, h.j, Nat.add_assoc]
  bitCount := h.bitCount
  dest := by
    intro q
    rw [bitLibAddBit, bitLibGetBit_setBit, h.dest, h.j, ← Nat.add_assoc]
    by_cases hlast : q = destPosition + s.j + n
    · rw [if_pos hlast, if_pos (by omega), hlast, Nat.add_sub_cancel_left]
    · rw [if_neg hlast]
      by_cases hin : destPosition + s.j ≤ q ∧ q < destPosition + s.j + n
      · rw [if_pos hin, if_pos ⟨hin.1, Nat.lt_succ_of_lt hin.2⟩]
      · rw [if_neg hin, if_neg (by omega)]

lemma wordCopied_foldl (data : Memory) (destPosition start n : Nat) {s : BitLibAddParity}
    (hword : s.parityWord = 0) :
    WordCopied data destPosition start n s ((List.range n).foldl (fun s bit =>
      bitLibAddBit data destPosition s (start + bit)) s) := by
  induction n with
  | zero =>
    refine ⟨hword, rfl, rfl, fun q => ?_⟩
    rw [List.range_zero, List.foldl_nil, if_neg fun h => Nat.not_lt.mpr h.1 h.2]
  | succ n ih =>
    rw [List.range_succ, List.foldl_append]
    exact ih.succ

/-- The first blocks are made: their last bits are the parity bits, the others those of the
source. -/
structure BlocksAdded (data : Memory) (position destPosition m : Nat) (kind : BitLibParity)
    (blocks : Nat) (s : BitLibAddParity) : Prop where
  parityWord : s.parityWord = 0
  j : s.j = blocks * (m + 1)
  bitCount : s.bitCount = blocks * (m + 1)
  source : ∀ i < blocks, ∀ k < m, bitLibGetBit s.dest (destPosition + (i * (m + 1) + k)) =
    bitLibGetBit data (position + (i * m + k))
  block : ∀ i < blocks, bitLibGetBit s.dest (destPosition + (i * (m + 1) + m)) =
    blockBit kind (sourceWord data position m i)

lemma index_lt {i blocks m k : Nat} (hi : i < blocks) (hk : k ≤ m) :
    i * (m + 1) + k < blocks * (m + 1) :=
  calc i * (m + 1) + k < i * (m + 1) + (m + 1) := Nat.add_lt_add_left (Nat.lt_succ_of_le hk) _
    _ = (i + 1) * (m + 1) := (Nat.succ_mul i (m + 1)).symm
    _ ≤ blocks * (m + 1) := Nat.mul_le_mul_right _ hi

lemma BlocksAdded.succ {m blocks : Nat} {kind : BitLibParity} {s : BitLibAddParity}
    (h : BlocksAdded data position destPosition m kind blocks s) :
    ∃ s', bitLibAddWord data (position + blocks * m) destPosition (m + 1) kind s = some s' ∧
      BlocksAdded data position destPosition m kind (blocks + 1) s' := by
  have hcopied := wordCopied_foldl data destPosition (position + blocks * m) m h.parityWord
  rw [bitLibAddWord, Nat.add_sub_cancel, bitLibParityBit_eq]
  generalize (List.range m).foldl (fun s bit =>
    bitLibAddBit data destPosition s (position + blocks * m + bit)) s = copied at hcopied
  refine ⟨_, rfl, rfl, ?_, ?_, ?_, ?_⟩
  · rw [hcopied.j, h.j, Nat.succ_mul, Nat.add_assoc]
  · rw [hcopied.bitCount, h.bitCount, Nat.succ_mul]
  · intro i hi k hk
    dsimp only
    rw [bitLibGetBit_setBit, hcopied.dest, hcopied.j, h.j]
    rcases Nat.lt_succ_iff_lt_or_eq.mp hi with hlt | rfl
    · have hbelow := index_lt hlt (Nat.le_of_lt hk)
      rw [if_neg (by omega), if_neg (by omega)]
      exact h.source i hlt k hk
    · have hsub : destPosition + (i * (m + 1) + k) - (destPosition + i * (m + 1)) = k := by omega
      rw [if_neg (by omega), if_pos (by omega), hsub, Nat.add_assoc]
  · intro i hi
    dsimp only
    rw [bitLibGetBit_setBit, hcopied.dest, hcopied.j, h.j]
    rcases Nat.lt_succ_iff_lt_or_eq.mp hi with hlt | rfl
    · have hbelow := index_lt hlt (Nat.le_refl m)
      rw [if_neg (by omega), if_neg (by omega)]
      exact h.block i hlt
    · rw [if_pos rfl, hcopied.parityWord, sourceWord]

lemma bitLibAddParity_cases (data dest : Memory) (position destPosition : Nat)
    {sourceLength parityLength : BitVec 8} (kind : BitLibParity) {m blocks : Nat}
    (hm : parityLength.toNat = m + 1) (hpos : 0 < m) (hblocks : sourceLength.toNat = blocks * m) :
    ∃ s, bitLibAddParity data position dest destPosition sourceLength parityLength kind =
        some (s.dest, blocks * (m + 1)) ∧
      BlocksAdded data position destPosition m kind blocks s := by
  have hloop (n : Nat) : ∃ s, (List.range n).foldlM (fun s i =>
      bitLibAddWord data (position + i * m) destPosition (m + 1) kind s) ⟨0, dest, 0, 0⟩ = some s ∧
        BlocksAdded data position destPosition m kind n s := by
    induction n with
    | zero =>
      refine ⟨_, rfl, rfl, ?_, ?_, ?_, ?_⟩
      · exact (Nat.zero_mul _).symm
      · exact (Nat.zero_mul _).symm
      · exact fun i hi => absurd hi (Nat.not_lt_zero i)
      · exact fun i hi => absurd hi (Nat.not_lt_zero i)
    | succ n ih =>
      obtain ⟨s, hs, hadded⟩ := ih
      obtain ⟨s', hs', hadded'⟩ := hadded.succ
      refine ⟨s', ?_, hadded'⟩
      rw [List.range_succ, List.foldlM_append, hs]
      simpa using hs'
  have hone : ¬parityLength.toNat ≤ 1 := by omega
  have hwords : (sourceLength.toNat + m - 1) / m = blocks := by
    rw [hblocks]
    exact Nat.div_eq_of_lt_le (by omega) (by rw [Nat.succ_mul]; omega)
  obtain ⟨s, hs, hadded⟩ := hloop blocks
  refine ⟨s, ?_, hadded⟩
  rw [bitLibAddParity]
  by_cases hzero : sourceLength = 0
  · have hnone : blocks = 0 := by
      rw [hzero] at hblocks
      exact (Nat.mul_eq_zero.mp hblocks.symm).resolve_right (Nat.ne_of_gt hpos)
    subst hnone
    cases hs
    rw [if_pos hzero, Nat.zero_mul]
  · rw [if_neg hzero, if_neg hone, hm, Nat.add_sub_cancel]
    dsimp only
    rw [hwords, hs, Option.map_some, hadded.bitCount]

/-! ### Removing bits -/

/-- The bits that have been read are moved together, in whole bytes; what is left over waits in
the buffer. The bits ahead are as they were. -/
structure BitsRemoved (data : Memory) (position n counter : Nat) (s : BitLibRemove) : Prop where
  lt : s.bitCounter < 8
  count : s.resultCounter + s.bitCounter = kept n counter
  buffer : ∀ i < s.bitCounter, s.bitBuffer.getLsbD (s.bitCounter - 1 - i) =
    bitLibGetBit data (position + keptIndex n (s.resultCounter + i))
  moved : ∀ k < s.resultCounter, bitLibGetBit s.data (position + k) =
    bitLibGetBit data (position + keptIndex n k)
  ahead : ∀ q, counter ≤ q → bitLibGetBit s.data (position + q) = bitLibGetBit data (position + q)

lemma BitsRemoved.write {n counter length : Nat} {data' : Memory} {s : BitLibRemove}
    {buffer : BitVec 8} (hlength : 0 < length) (hle : length ≤ 8)
    (hmoved : ∀ k < s.resultCounter, bitLibGetBit s.data (position + k) =
      bitLibGetBit data (position + keptIndex n k))
    (hbuffer : ∀ i < length, buffer.getLsbD (length - 1 - i) =
      bitLibGetBit data (position + keptIndex n (s.resultCounter + i)))
    (hahead : ∀ q, counter ≤ q → bitLibGetBit s.data (position + q) = bitLibGetBit data (position + q))
    (hcounter : s.resultCounter + length ≤ counter)
    (h : bitLibSetBits s.data (position + s.resultCounter) buffer length = some data') :
    (∀ k < s.resultCounter + length, bitLibGetBit data' (position + k) =
        bitLibGetBit data (position + keptIndex n k)) ∧
      ∀ q, counter ≤ q → bitLibGetBit data' (position + q) = bitLibGetBit data (position + q) := by
  obtain ⟨_, hset, hbits⟩ :=
    bitLibSetBits_cases s.data (position + s.resultCounter) buffer hlength hle
  cases hset.symm.trans h
  constructor
  · intro k hk
    rw [hbits]
    by_cases hlow : k < s.resultCounter
    · rw [if_neg (by omega)]
      exact hmoved k hlow
    · have hsub : position + k - (position + s.resultCounter) = k - s.resultCounter := by omega
      have hadd : s.resultCounter + (k - s.resultCounter) = k := by omega
      rw [if_pos (by omega), hsub, hbuffer _ (by omega), hadd]
  · intro q hq
    rw [hbits, if_neg (by omega)]
    exact hahead q hq

lemma BitsRemoved.round {n counter : Nat} {s : BitLibRemove} (hn : 2 ≤ n)
    (h : BitsRemoved data position n counter s) :
    ∃ s', bitLibRemoveRound position n s counter = some s' ∧
      BitsRemoved data position n (counter + 1) s' := by
  rw [bitLibRemoveRound]
  by_cases hlast : (counter + 1) % n = 0
  · have hout : ¬(counter + 1) % n ≠ 0 := not_not.mpr hlast
    simp only [if_neg hout]
    rw [if_neg (Nat.ne_of_lt h.lt)]
    refine ⟨s, rfl, h.lt, ?_, h.buffer, h.moved, fun q hq => h.ahead q (Nat.le_of_succ_le hq)⟩
    rw [h.count, kept_succ_of_mod_eq hlast]
  · have hin : (counter + 1) % n ≠ 0 := hlast
    simp only [if_pos hin]
    -- the bit that is read is the next one that remains
    have hindex : keptIndex n (s.resultCounter + s.bitCounter) = counter := by
      rw [h.count, keptIndex_kept hn hlast]
    have hlt := h.lt
    have hbuffer : ∀ i < s.bitCounter + 1,
        (shiftIn s.bitBuffer (bitLibGetBit s.data (position + counter))).getLsbD
            (s.bitCounter + 1 - 1 - i) =
          bitLibGetBit data (position + keptIndex n (s.resultCounter + i)) := by
      intro i hi
      rw [getLsbD_shiftIn _ _ (by omega)]
      rcases Nat.lt_succ_iff_lt_or_eq.mp hi with hbelow | rfl
      · have hsub : s.bitCounter + 1 - 1 - i - 1 = s.bitCounter - 1 - i := by omega
        rw [if_neg (by omega), hsub]
        exact h.buffer i hbelow
      · rw [if_pos (by omega), hindex]
        exact h.ahead counter (Nat.le_refl counter)
    have hcount : s.resultCounter + (s.bitCounter + 1) = kept n (counter + 1) := by
      rw [kept_succ_of_mod_ne hlast, ← h.count, Nat.add_assoc]
    have hahead : ∀ q, counter + 1 ≤ q →
        bitLibGetBit s.data (position + q) = bitLibGetBit data (position + q) :=
      fun q hq => h.ahead q (Nat.le_of_succ_le hq)
    split_ifs with hfull
    · rw [hfull] at hbuffer hcount
      have hroom : s.resultCounter + 8 ≤ counter + 1 := by
        rw [hcount]
        exact kept_le n (counter + 1)
      obtain ⟨data', hset, _⟩ := bitLibSetBits_cases s.data (position + s.resultCounter)
        (shiftIn s.bitBuffer (bitLibGetBit s.data (position + counter))) (by decide) (Nat.le_refl 8)
      obtain ⟨hmoved, hkept⟩ := BitsRemoved.write (by decide) (Nat.le_refl 8) h.moved hbuffer hahead
        hroom hset
      rw [hset]
      refine ⟨_, rfl, by dsimp only; omega, hcount, ?_, hmoved, hkept⟩
      exact fun i hi => absurd hi (Nat.not_lt_zero i)
    · refine ⟨_, rfl, ?_, hcount, hbuffer, h.moved, hahead⟩
      exact Nat.lt_of_le_of_ne (Nat.succ_le_of_lt h.lt) hfull

lemma bitLibRemoveBitEveryNth_cases (data : Memory) (position : Nat) (length : BitVec 8)
    {n : BitVec 8} (hn : 2 ≤ n.toNat) :
    ∃ data', bitLibRemoveBitEveryNth data position length n =
        some (data', kept n.toNat length.toNat) ∧
      ∀ k < kept n.toNat length.toNat, bitLibGetBit data' (position + k) =
        bitLibGetBit data (position + keptIndex n.toNat k) := by
  have hloop (c : Nat) : ∃ s, (List.range c).foldlM (bitLibRemoveRound position n.toNat)
      ⟨data, 0, 0, 0⟩ = some s ∧ BitsRemoved data position n.toNat c s := by
    induction c with
    | zero =>
      refine ⟨_, rfl, Nat.succ_pos 7, (kept_zero _).symm, ?_, ?_, fun _ _ => rfl⟩
      · exact fun i hi => absurd hi (Nat.not_lt_zero i)
      · exact fun i hi => absurd hi (Nat.not_lt_zero i)
    | succ c ih =>
      obtain ⟨s, hs, hremoved⟩ := ih
      obtain ⟨s', hs', hremoved'⟩ := hremoved.round hn
      refine ⟨s', ?_, hremoved'⟩
      rw [List.range_succ, List.foldlM_append, hs]
      simpa using hs'
  have hne : ¬(n = 0 ∧ length ≠ 0) := by
    rintro ⟨rfl, _⟩
    exact absurd hn (by decide)
  obtain ⟨s, hs, hremoved⟩ := hloop length.toNat
  have hlt := hremoved.lt
  rw [bitLibRemoveBitEveryNth, if_neg hne, hs]
  by_cases hrest : s.bitCounter ≠ 0
  · obtain ⟨data', hset, _⟩ := bitLibSetBits_cases s.data (position + s.resultCounter) s.bitBuffer
      (Nat.pos_of_ne_zero hrest) (Nat.le_of_lt hremoved.lt)
    have hroom : s.resultCounter + s.bitCounter ≤ length.toNat := by
      rw [hremoved.count]
      exact kept_le _ _
    obtain ⟨hmoved, _⟩ := BitsRemoved.write (Nat.pos_of_ne_zero hrest) (Nat.le_of_lt hremoved.lt)
      hremoved.moved hremoved.buffer hremoved.ahead hroom hset
    rw [hremoved.count] at hmoved
    refine ⟨data', ?_, hmoved⟩
    simp [hrest, hset, hremoved.count]
  · have hzero : s.bitCounter = 0 := not_not.mp hrest
    have hcount := hremoved.count
    rw [hzero, Nat.add_zero] at hcount
    refine ⟨s.data, ?_, fun k hk => hremoved.moved k (hcount.symm ▸ hk)⟩
    simp [hzero, hcount]

end FlipperZero
