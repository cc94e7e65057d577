import FlipperZero.BitLib.ParityBits

/-!
# Parity bits there and back

`bit_lib_test_parity_32` calls a block even that has an odd number of ones, and
`bit_lib_add_parity` makes this number even. So the check rejects every block that was made for
even or odd parity, and accepts the marker bits only. The number of bits made does not always
fit the byte that the other functions take as their length.
-/

namespace FlipperZero

open Foundation

variable {data dest : Memory} {position : Nat}

/-! ### Words of an array -/

/-- A field of at most eight bits, which may lie in two bytes. -/
lemma getLsbD_bitLibGetBits (data : Memory) (position : Nat) {length i : Nat} (hlength : length ≤ 8) :
    (bitLibGetBits data position length).getLsbD i =
      (decide (i < length) && bitLibGetBit data (position + (length - 1 - i))) := by
  rw [bitLibGetBits, bitLibGetBit_eq]
  by_cases hi : i < length
  · rw [decide_eq_true hi, Bool.true_and]
    split_ifs with hshift
    · have hbyte : (position + (length - 1 - i)) / 8 = position / 8 := by omega
      have hbit : 8 - length + i = 7 - (position + (length - 1 - i)) % 8 := by omega
      rw [BitVec.getLsbD_ushiftRight, hbyte, hbit]
    · rw [BitVec.getLsbD_ushiftRight, BitVec.getLsbD_or, BitVec.getLsbD_shiftLeft,
        BitVec.getLsbD_ushiftRight]
      by_cases hfirst : position % 8 ≤ 8 - length + i
      · have hbyte : (position + (length - 1 - i)) / 8 = position / 8 := by omega
        have hbit : 8 - length + i - position % 8 = 7 - (position + (length - 1 - i)) % 8 := by omega
        have hhigh : (data (position / 8 + 1)).getLsbD (8 - position % 8 + (8 - length + i)) = false :=
          BitVec.getLsbD_of_ge _ _ (by omega)
        have hlow : 8 - length + i < 8 := by omega
        rw [hbyte, hbit, hhigh]
        simp [hlow, hfirst]
      · have hbyte : (position + (length - 1 - i)) / 8 = position / 8 + 1 := by omega
        have hbit : 8 - position % 8 + (8 - length + i) = 7 - (position + (length - 1 - i)) % 8 := by
          omega
        rw [hbyte, hbit]
        simp [Nat.lt_of_not_le hfirst]
  · rw [decide_eq_false hi, Bool.false_and]
    split_ifs with hshift
    · rw [BitVec.getLsbD_ushiftRight]
      exact BitVec.getLsbD_of_ge _ _ (by omega)
    · rw [BitVec.getLsbD_ushiftRight]
      exact BitVec.getLsbD_of_ge _ _ (by omega)

lemma bitLibWord_eq (data : Memory) (position : Nat) {length : Nat} (hlength : length ≤ 8) (shift : Nat) :
    bitLibWord data position length shift =
      packed 32 (fun k => bitLibGetBit data (position + k)) length <<< shift := by
  have hword : (bitLibGetBits data position length).setWidth 32 =
      packed 32 (fun k => bitLibGetBit data (position + k)) length := by
    apply BitVec.eq_of_getLsbD_eq
    intro i hi
    rw [BitVec.getLsbD_setWidth, getLsbD_packed _ hi, getLsbD_bitLibGetBits _ _ hlength,
      decide_eq_true hi, Bool.true_and]
  rw [bitLibWord, hword]

/-- `bit_lib_get_bits_32` puts the bytes of a string together. -/
lemma bitLibGetBits32_eq (data : Memory) (position : Nat) {length : Nat} (hlength : length ≤ 32) :
    bitLibGetBits32 data position length =
      some (packed 32 (fun k => bitLibGetBit data (position + k)) length) := by
  have hmore (start rest : Nat) : bitLibWord data start 8 rest |||
        packed 32 (fun k => bitLibGetBit data (start + 8 + k)) rest =
      packed 32 (fun k => bitLibGetBit data (start + k)) (8 + rest) := by
    rw [packed_add, bitLibWord_eq data start (Nat.le_refl 8)]
    simp only [Nat.add_assoc]
  have hlast (start rest : Nat) (hrest : rest ≤ 8) : bitLibWord data start rest 0 =
      packed 32 (fun k => bitLibGetBit data (start + k)) rest := by
    rw [bitLibWord_eq data start hrest, BitVec.shiftLeft_zero]
  rw [bitLibGetBits32]
  split_ifs with h8 h16 h24
  · rw [hlast _ _ h8]
  · obtain ⟨rest, rfl⟩ : ∃ rest, length = 8 + rest := ⟨length - 8, by omega⟩
    rw [Nat.add_sub_cancel_left, hlast _ _ (by omega), hmore]
  · obtain ⟨rest, rfl⟩ : ∃ rest, length = 8 + (8 + rest) := ⟨length - 16, by omega⟩
    have hrest : 8 + (8 + rest) - 16 = rest := by omega
    rw [Nat.add_sub_cancel_left, hrest, hlast _ _ (by omega), BitVec.or_assoc,
      ← Nat.add_assoc position 8 8, hmore, hmore]
  · obtain ⟨rest, rfl⟩ : ∃ rest, length = 8 + (8 + (8 + rest)) := ⟨length - 24, by omega⟩
    have htwo : 8 + (8 + (8 + rest)) - 16 = 8 + rest := by omega
    have hrest : 8 + (8 + (8 + rest)) - 24 = rest := by omega
    have hsecond : position + 16 = position + 8 + 8 := rfl
    have hthird : position + 24 = position + 8 + 8 + 8 := rfl
    rw [Nat.add_sub_cancel_left, htwo, hrest, hlast _ _ (by omega), BitVec.or_assoc, BitVec.or_assoc,
      hthird, hsecond, hmore, hmore, hmore]

/-! ### The checks of the blocks -/

lemma bitLibTestBlocks_eq_true {test : Nat → Option Bool} {is : List Nat}
    (h : ∀ i ∈ is, test i = some true) : bitLibTestBlocks test is = some true := by
  induction is with
  | nil => rfl
  | cons i is ih =>
    rw [bitLibTestBlocks, h i List.mem_cons_self]
    exact ih fun j hj => h j (List.mem_cons_of_mem i hj)

lemma bitLibTestBlocks_ne_true {test : Nat → Option Bool} {n : Nat} (hn : 0 < n)
    (h : test 0 ≠ some true) : bitLibTestBlocks test (List.range n) ≠ some true := by
  obtain ⟨n, rfl⟩ : ∃ k, n = k + 1 := ⟨n - 1, by omega⟩
  rw [List.range_succ_eq_map, bitLibTestBlocks]
  cases htest : test 0 with
  | none => simp
  | some result =>
    cases result with
    | false => simp
    | true => exact absurd htest h

variable {destPosition m blocks : Nat} {s : BitLibAddParity}

lemma BlocksAdded.testBlock_marker {kind : BitLibParity} (hkind : kind = .always0 ∨ kind = .always1)
    (h : BlocksAdded data position destPosition m kind blocks s) {i : Nat} (hi : i < blocks) :
    bitLibTestBlock s.dest (destPosition + i * (m + 1)) kind (m + 1) = some true := by
  have hblock := h.block i hi
  rw [← Nat.add_assoc] at hblock
  rcases hkind with rfl | rfl
  all_goals
    rw [bitLibTestBlock, ← Nat.add_assoc, Nat.add_sub_cancel, hblock]
    rfl

lemma BlocksAdded.testBlock_parity {kind : BitLibParity} (hkind : kind = .even ∨ kind = .odd)
    (h : BlocksAdded data position destPosition m kind blocks s) (hblocks : 0 < blocks) :
    bitLibTestBlock s.dest destPosition kind (m + 1) ≠ some true := by
  by_cases hlength : m + 1 ≤ 32
  · have hword : packed 32 (fun k => bitLibGetBit s.dest (destPosition + k)) m =
        sourceWord data position m 0 := by
      apply packed_congr
      intro k hk
      have hsource := h.source 0 hblocks k hk
      rw [Nat.zero_mul, Nat.zero_add, Nat.zero_mul, Nat.zero_add] at hsource
      rw [hsource, Nat.zero_mul, Nat.add_zero]
    have hblock := h.block 0 hblocks
    rw [Nat.zero_mul, Nat.zero_add] at hblock
    have hparity := parity_packed_succ (w := 31)
      (fun k => bitLibGetBit s.dest (destPosition + k)) (Nat.le_of_succ_le_succ hlength)
    rw [hword, hblock] at hparity
    rcases hkind with rfl | rfl
    · rw [bitLibTestBlock, bitLibGetBits32_eq _ _ hlength, Option.bind_some, bitLibTestParity32, hparity]
      simp [blockBit]
    · rw [bitLibTestBlock, bitLibGetBits32_eq _ _ hlength, Option.bind_some, bitLibTestParity32, hparity]
      simp [blockBit]
  · have hnone : bitLibGetBits32 s.dest destPosition (m + 1) = none := by
      rw [bitLibGetBits32, if_neg (by omega), if_neg (by omega), if_neg (by omega), if_neg hlength]
    rcases hkind with rfl | rfl
    all_goals
      rw [bitLibTestBlock, hnone]
      simp

/-! ### There and back -/

/-- The bits that are made pass the check, and without the parity bits they are those of the
source. -/
def ParityRoundTrip (data dest : Memory) (position destPosition : Nat)
    (sourceLength parityLength : BitVec 8) (kind : BitLibParity) : Prop :=
  ∃ dest' bits dest'',
    bitLibAddParity data position dest destPosition sourceLength parityLength kind =
      some (dest', bits) ∧
    bitLibTestParity dest' destPosition (BitVec.ofNat 8 bits) kind parityLength = some true ∧
    bitLibRemoveBitEveryNth dest' destPosition (BitVec.ofNat 8 bits) parityLength =
      some (dest'', sourceLength.toNat) ∧
    ∀ k < sourceLength.toNat,
      bitLibGetBit dest'' (destPosition + k) = bitLibGetBit data (position + k)

/-- The arguments that it works for: no bits, or marker bits and no more bits in all than a byte
can count. -/
def ParityFits (sourceLength parityLength : BitVec 8) (kind : BitLibParity) : Prop :=
  parityLength ≠ 0 ∧ (sourceLength = 0 ∨ (kind = .always0 ∨ kind = .always1) ∧
    sourceLength.toNat / (parityLength.toNat - 1) * parityLength.toNat ≤ 255)

/-- The bits of the source stand where the removal looks for them. -/
lemma BlocksAdded.source_keptIndex {kind : BitLibParity} (hm : 0 < m)
    (h : BlocksAdded data position destPosition m kind blocks s) {k : Nat} (hk : k < blocks * m) :
    bitLibGetBit s.dest (destPosition + keptIndex (m + 1) k) = bitLibGetBit data (position + k) := by
  have hrest : k % m < m := Nat.mod_lt k hm
  have hblock : k / m < blocks := Nat.div_lt_of_lt_mul (Nat.mul_comm blocks m ▸ hk)
  have hindex := keptIndex_eq (q := k / m) hrest
  have hsource := h.source (k / m) hblock (k % m) hrest
  rw [Nat.div_add_mod] at hindex
  rw [Nat.mul_comm (k / m) m, Nat.div_add_mod] at hsource
  rw [hindex, Nat.mul_comm (m + 1), hsource]

lemma parityRoundTrip_empty (data dest : Memory) (position destPosition : Nat) {parityLength : BitVec 8}
    (kind : BitLibParity) (hlength : parityLength ≠ 0) :
    ParityRoundTrip data dest position destPosition 0 parityLength kind := by
  refine ⟨dest, 0, dest, rfl, ?_, ?_, fun k hk => absurd hk (Nat.not_lt_zero k)⟩
  · rw [bitLibTestParity, if_neg hlength]
    simp [bitLibTestBlocks]
  · rw [bitLibRemoveBitEveryNth, if_neg fun h => hlength h.1]
    rfl

section Words

variable {sourceLength parityLength : BitVec 8} {kind : BitLibParity}

/-- Marker bits come through as long as a byte counts the bits. -/
lemma BlocksAdded.roundTrip_marker (hkind : kind = .always0 ∨ kind = .always1) (hm : 0 < m)
    (hlength : parityLength.toNat = m + 1) (hsource : sourceLength.toNat = blocks * m)
    (hadd : bitLibAddParity data position dest destPosition sourceLength parityLength kind =
      some (s.dest, blocks * (m + 1)))
    (h : BlocksAdded data position destPosition m kind blocks s) (hfits : blocks * (m + 1) ≤ 255) :
    ParityRoundTrip data dest position destPosition sourceLength parityLength kind := by
  have htotal : (BitVec.ofNat 8 (blocks * (m + 1))).toNat = blocks * (m + 1) := by
    rw [BitVec.toNat_ofNat]
    exact Nat.mod_eq_of_lt (Nat.lt_succ_of_le hfits)
  have hn : 2 ≤ parityLength.toNat := by omega
  have hne : parityLength ≠ 0 := by
    rintro rfl
    exact absurd hn (by decide)
  obtain ⟨dest'', hremove, hbits⟩ := bitLibRemoveBitEveryNth_cases s.dest destPosition
    (BitVec.ofNat 8 (blocks * (m + 1))) hn
  rw [htotal, hlength, kept_mul] at hremove hbits
  refine ⟨s.dest, _, dest'', hadd, ?_, hsource ▸ hremove, ?_⟩
  · rw [bitLibTestParity, if_neg hne, htotal, hlength, Nat.mul_div_cancel _ (Nat.succ_pos m)]
    apply bitLibTestBlocks_eq_true
    exact fun i hi => h.testBlock_marker hkind (List.mem_range.mp hi)
  · rw [hsource]
    exact fun k hk => (hbits k hk).trans (h.source_keptIndex hm hk)

lemma BlocksAdded.fits_of_roundTrip (hm : 0 < m) (hblocks : 0 < blocks)
    (hlength : parityLength.toNat = m + 1) (hsource : sourceLength.toNat = blocks * m)
    (hadd : bitLibAddParity data position dest destPosition sourceLength parityLength kind =
      some (s.dest, blocks * (m + 1)))
    (h : BlocksAdded data position destPosition m kind blocks s)
    (htrip : ParityRoundTrip data dest position destPosition sourceLength parityLength kind) :
    (kind = .always0 ∨ kind = .always1) ∧ blocks * (m + 1) ≤ 255 := by
  obtain ⟨dest', bits, dest'', hadd', htest, hremove, _⟩ := htrip
  cases hadd.symm.trans hadd'
  have hn : 2 ≤ parityLength.toNat := by omega
  have hne : parityLength ≠ 0 := by
    rintro rfl
    exact absurd hn (by decide)
  have hfits : blocks * (m + 1) ≤ 255 := by
    by_contra hlarge
    obtain ⟨_, hremove', _⟩ := bitLibRemoveBitEveryNth_cases s.dest destPosition
      (BitVec.ofNat 8 (blocks * (m + 1))) hn
    have hcount := congrArg Prod.snd (Option.some.inj (hremove'.symm.trans hremove))
    have hless : (blocks * (m + 1)) % 256 + 2 ≤ blocks * (m + 1) := by omega
    have hlt := Nat.lt_of_lt_of_le
      (kept_lt_add_two (n := m + 1) (by omega) ((blocks * (m + 1)) % 256)) (kept_mono hless)
    rw [kept_mul] at hlt
    dsimp only at hcount
    rw [hlength, hsource, BitVec.toNat_ofNat] at hcount
    exact Nat.ne_of_lt hlt hcount
  have htotal : (BitVec.ofNat 8 (blocks * (m + 1))).toNat = blocks * (m + 1) := by
    rw [BitVec.toNat_ofNat]
    exact Nat.mod_eq_of_lt (Nat.lt_succ_of_le hfits)
  rw [bitLibTestParity, if_neg hne, htotal, hlength, Nat.mul_div_cancel _ (Nat.succ_pos m)] at htest
  have hreject (hkind : kind = .even ∨ kind = .odd) : False := by
    apply bitLibTestBlocks_ne_true hblocks _ htest
    rw [Nat.zero_mul, Nat.add_zero]
    exact h.testBlock_parity hkind hblocks
  refine ⟨?_, hfits⟩
  cases kind with
  | even => exact (hreject (Or.inl rfl)).elim
  | odd => exact (hreject (Or.inr rfl)).elim
  | always0 => exact Or.inl rfl
  | always1 => exact Or.inr rfl

/-- For whole words, adding the bits, checking them and removing them works exactly for these
arguments. -/
theorem parityRoundTrip_iff (data dest : Memory) (position destPosition : Nat) (kind : BitLibParity)
    (hwords : (parityLength.toNat : Int) - 1 ∣ sourceLength.toNat) :
    ParityRoundTrip data dest position destPosition sourceLength parityLength kind ↔
      ParityFits sourceLength parityLength kind := by
  by_cases hzero : parityLength = 0
  · constructor
    · rintro ⟨_, _, _, _, htest, _⟩
      rw [bitLibTestParity, if_pos hzero] at htest
      cases htest
    · exact fun h => absurd hzero h.1
  by_cases hempty : sourceLength = 0
  · rw [hempty]
    exact iff_of_true (parityRoundTrip_empty _ _ _ _ _ hzero) ⟨hzero, Or.inl rfl⟩
  have hpos : sourceLength.toNat ≠ 0 := fun h => hempty (BitVec.eq_of_toNat_eq h)
  have hone : 0 < parityLength.toNat :=
    Nat.pos_of_ne_zero fun h => hzero (BitVec.eq_of_toNat_eq h)
  obtain ⟨m, hlength⟩ : ∃ m, parityLength.toNat = m + 1 := ⟨parityLength.toNat - 1, by omega⟩
  have hsub : (parityLength.toNat : Int) - 1 = m := by omega
  rw [hsub, Int.natCast_dvd_natCast] at hwords
  obtain ⟨blocks, hsource⟩ := hwords
  rw [Nat.mul_comm] at hsource
  have hm : 0 < m := by
    apply Nat.pos_of_ne_zero
    rintro rfl
    exact hpos (hsource.trans (Nat.mul_zero blocks))
  have hblocks : 0 < blocks := by
    apply Nat.pos_of_ne_zero
    rintro rfl
    exact hpos (hsource.trans (Nat.zero_mul m))
  obtain ⟨s, hadd, hadded⟩ :=
    bitLibAddParity_cases data dest position destPosition kind hlength hm hsource
  rw [ParityFits, hlength, hsource, Nat.add_sub_cancel, Nat.mul_div_cancel _ hm]
  constructor
  · exact fun h => ⟨hzero, Or.inr (hadded.fits_of_roundTrip hm hblocks hlength hsource hadd h)⟩
  · rintro ⟨_, h | ⟨hkind, hfits⟩⟩
    · exact absurd h hempty
    · exact hadded.roundTrip_marker hkind hm hlength hsource hadd hfits

end Words

/-- Two words of four bits with a marker bit behind each. -/
theorem parityRoundTrip_marker :
    ParityRoundTrip (fun _ => 0x5A) (fun _ => 0) 0 0 8 5 .always1 :=
  (parityRoundTrip_iff _ _ 0 0 .always1 (by decide)).mpr ⟨by decide, Or.inr (by decide)⟩

/-- With even parity the check rejects them. -/
theorem not_parityRoundTrip_even :
    ¬ParityRoundTrip (fun _ => 0x5A) (fun _ => 0) 0 0 8 5 .even := by
  rintro ⟨dest', bits, _, hadd, htest, _⟩
  have hmade : (bitLibAddParity (fun _ => 0x5A) 0 (fun _ => 0) 0 8 5 .even).bind
      (fun r => bitLibTestParity r.1 0 (BitVec.ofNat 8 r.2) .even 5) = some false := by decide +kernel
  rw [hadd] at hmade
  exact absurd (Option.some.inj (htest.symm.trans hmade)) (by decide)

end FlipperZero
