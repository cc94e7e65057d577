import FlipperZero.BitLib.BitFields

/-!
# Paradox cards

Behind a first byte every bit of a card is sent as two bits that differ. The decoder waits for a
frame and the first byte of the next one. It reads 44 bits and puts four zeros behind them.
-/

namespace FlipperZero

open Foundation

/-! ### The protocol -/

def protocolParadoxCanBeDecoded (encodedData : Memory) : Bool :=
  if encodedData 0 ≠ 0b00001111 ∨ encodedData 12 ≠ 0b00001111 then false
  else (List.range 44).all fun k =>
    bitLibGetBit encodedData (8 + 2 * k) != bitLibGetBit encodedData (8 + 2 * k + 1)

/-- A round of `protocol_paradox_decode`. -/
def protocolParadoxDecodeBit (encodedData decodedData : Memory) (k : Nat) : Memory :=
  if bitLibGetBits encodedData (8 + 2 * k) 2 = 0b01 then bitLibPushBit decodedData 6 false
  else if bitLibGetBits encodedData (8 + 2 * k) 2 = 0b10 then bitLibPushBit decodedData 6 true
  else decodedData

def protocolParadoxDecode (encodedData decodedData : Memory) : Memory :=
  let decodedData := (List.range 44).foldl (protocolParadoxDecodeBit encodedData) decodedData
  (List.range 4).foldl (fun decodedData _ => bitLibPushBit decodedData 6 false) decodedData

def protocolParadoxEncode (decodedData encodedData : Memory) : Option Memory := do
  let encodedData ← bitLibSetBits encodedData 0 0b00001111 8
  (List.range 44).foldlM (fun encodedData i =>
    if bitLibGetBit decodedData i then bitLibSetBits encodedData (8 + i * 2) 0b10 2
    else bitLibSetBits encodedData (8 + i * 2) 0b01 2) encodedData

/-! ### The frame of a card -/

/-- The bits of a frame, as far as they have been written. -/
structure ParadoxFrame (data : Memory) (n : Nat) (encoded : Memory) : Prop where
  preamble : bitLibGetBits encoded 0 8 = 0b00001111
  first : ∀ i < n, bitLibGetBit encoded (8 + 2 * i) = bitLibGetBit data i
  second : ∀ i < n, bitLibGetBit encoded (8 + 2 * i + 1) = !bitLibGetBit data i

lemma protocolParadoxEncode_frame (data encodedData : Memory) :
    ∃ encoded, protocolParadoxEncode data encodedData = some encoded ∧
      ParadoxFrame data 44 encoded := by
  have hrounds (n : Nat) : ∃ encoded, (List.range n).foldlM (fun encodedData i =>
      if bitLibGetBit data i then bitLibSetBits encodedData (8 + i * 2) 0b10 2
      else bitLibSetBits encodedData (8 + i * 2) 0b01 2)
        (bitLibPutBits encodedData 0 0b00001111 8) = some encoded ∧ ParadoxFrame data n encoded := by
    induction n with
    | zero =>
      exact ⟨_, rfl, bitLibGetBits_putBits encodedData 0 _, fun _ hi => absurd hi (Nat.not_lt_zero _),
        fun _ hi => absurd hi (Nat.not_lt_zero _)⟩
    | succ n ih =>
      obtain ⟨encoded, hencoded, hframe⟩ := ih
      rw [List.range_succ, List.foldlM_append, hencoded]
      have hround : (if bitLibGetBit data n then bitLibSetBits encoded (8 + n * 2) 0b10 2
          else bitLibSetBits encoded (8 + n * 2) 0b01 2) =
            some (bitLibPutBits encoded (8 + n * 2) (if bitLibGetBit data n then 0b10 else 0b01) 2) := by
        split_ifs
        · exact bitLibSetBits_eq _ _ _ (by decide)
        · exact bitLibSetBits_eq _ _ _ (by decide)
      refine ⟨bitLibPutBits encoded (8 + n * 2) (if bitLibGetBit data n then 0b10 else 0b01) 2, ?_, ?_,
        fun i hi => ?_, fun i hi => ?_⟩
      · rw [Option.bind_eq_bind, Option.bind_some, List.foldlM_cons, hround]
        rfl
      · rw [bitLibGetBits_putBits_of_disjoint (Nat.le_refl 8) (by omega)]
        exact hframe.preamble
      · rw [bitLibGetBit_putBits]
        by_cases hlast : i = n
        · have hindex : 2 - 1 - (8 + 2 * i - (8 + n * 2)) = 1 := by omega
          rw [if_pos (by omega), hindex, hlast]
          cases bitLibGetBit data n <;> rfl
        · rw [if_neg (by omega)]
          exact hframe.first i (by omega)
      · rw [bitLibGetBit_putBits]
        by_cases hlast : i = n
        · have hindex : 2 - 1 - (8 + 2 * i + 1 - (8 + n * 2)) = 0 := by omega
          rw [if_pos (by omega), hindex, hlast]
          cases bitLibGetBit data n <;> rfl
        · rw [if_neg (by omega)]
          exact hframe.second i (by omega)
  obtain ⟨encoded, hencoded, hframe⟩ := hrounds 44
  refine ⟨encoded, ?_, hframe⟩
  rw [protocolParadoxEncode, bitLibSetBits_eq _ _ _ (by decide)]
  exact hencoded

lemma ParadoxFrame.canBeDecoded {data encoded : Memory} (h : ParadoxFrame data 44 encoded) :
    protocolParadoxCanBeDecoded (repeatedFrame 12 encoded) = true := by
  have hpreamble : encoded 0 = 0b00001111 := (bitLibGetBits_byte encoded 0).symm.trans h.preamble
  have hfirst : repeatedFrame 12 encoded 0 = 0b00001111 := hpreamble
  have hnext : repeatedFrame 12 encoded 12 = 0b00001111 := hpreamble
  rw [protocolParadoxCanBeDecoded, hfirst, hnext, if_neg (by simp), List.all_eq_true]
  intro k hk
  have hlt : k < 44 := List.mem_range.mp hk
  rw [bitLibGetBit_repeatedFrame, bitLibGetBit_repeatedFrame, Nat.mod_eq_of_lt (by omega),
    Nat.mod_eq_of_lt (by omega), h.first k hlt, h.second k hlt]
  cases bitLibGetBit data k <;> rfl

lemma bitLibGetBit_pushes {decoded decoded' : Memory} {f : Nat → Bool} {n k : Nat}
    (h : ∀ k < 48, bitLibGetBit decoded' k =
      if k + n < 48 then bitLibGetBit decoded (k + n) else f (k + n - 48)) (hk : k < 48)
    (hn : n < 48) : bitLibGetBit (bitLibPushBit decoded' 6 (f n)) k =
      if k + (n + 1) < 48 then bitLibGetBit decoded (k + (n + 1)) else f (k + (n + 1) - 48) := by
  rw [bitLibGetBit_pushBit decoded' 5 (f n) hk]
  by_cases hlast : k + 1 = 8 * (5 + 1)
  · have hindex : k + (n + 1) - 48 = n := by omega
    rw [if_pos hlast, if_neg (by omega), hindex]
  · have hnext : k + 1 + n = k + (n + 1) := by omega
    rw [if_neg hlast, h (k + 1) (by omega), hnext]

/-- A frame is decoded to the card, if the card ends with the four zeros. -/
lemma ParadoxFrame.decode {data encoded : Memory} (h : ParadoxFrame data 44 encoded)
    (hlast : data 5 &&& 0x0F = 0) (decoded : Memory) {i : Nat} (hi : i < 6) :
    protocolParadoxDecode (repeatedFrame 12 encoded) decoded i = data i := by
  have hend (j : Nat) (hj : j < 4) : bitLibGetBit data (44 + j) = false := by
    have hbyte : (44 + j) / 8 = 5 := by omega
    have hbit := congrArg (fun byte => byte.getLsbD (7 - (44 + j) % 8)) hlast
    have hmask : (0x0F : BitVec 8).getLsbD (7 - (44 + j) % 8) = true := by
      interval_cases j <;> decide
    simp only [BitVec.getLsbD_and] at hbit
    rw [hmask, Bool.and_true] at hbit
    rw [bitLibGetBit_eq, hbyte, hbit]
    simp
  have hpair (k : Nat) (hk : k < 44) : bitLibGetBits (repeatedFrame 12 encoded) (8 + 2 * k) 2 =
      if bitLibGetBit data k then 0b10 else 0b01 := by
    apply BitVec.eq_of_getLsbD_eq
    intro i hi
    rw [getLsbD_bitLibGetBits _ _ (by decide)]
    match i with
    | 0 =>
      rw [decide_eq_true (by decide), Bool.true_and, bitLibGetBit_repeatedFrame,
        Nat.mod_eq_of_lt (by omega), h.second k hk]
      cases bitLibGetBit data k <;> rfl
    | 1 =>
      have hposition : 8 + 2 * k + (2 - 1 - 1) = 8 + 2 * k := rfl
      rw [decide_eq_true (by decide), Bool.true_and, bitLibGetBit_repeatedFrame, hposition,
        Nat.mod_eq_of_lt (by omega), h.first k hk]
      cases bitLibGetBit data k <;> rfl
    | i + 2 =>
      have hhigh : ∀ i < 6, ∀ b : Bool, (if b then 0b10 else 0b01 : BitVec 8).getLsbD (i + 2) = false := by
        decide
      rw [decide_eq_false (by omega), Bool.false_and, hhigh i (by omega)]
  have hrounds (n : Nat) (hn : n ≤ 44) : ∀ k < 48,
      bitLibGetBit ((List.range n).foldl (protocolParadoxDecodeBit (repeatedFrame 12 encoded)) decoded)
        k = if k + n < 48 then bitLibGetBit decoded (k + n) else bitLibGetBit data (k + n - 48) := by
    induction n with
    | zero =>
      intro k hk
      rw [List.range_zero, List.foldl_nil, if_pos (by omega), Nat.add_zero]
    | succ n ih =>
      intro k hk
      have hpush := bitLibGetBit_pushes (ih (Nat.le_of_succ_le hn)) hk (by omega)
      rw [List.range_succ, List.foldl_append, List.foldl_cons, List.foldl_nil,
        protocolParadoxDecodeBit, hpair n (by omega)]
      cases hbit : bitLibGetBit data n with
      | false =>
        rw [hbit] at hpush
        exact hpush
      | true =>
        rw [hbit] at hpush
        exact hpush
  have hzeros (n : Nat) (hn : n ≤ 4) : ∀ k < 48, bitLibGetBit ((List.range n).foldl
      (fun decodedData _ => bitLibPushBit decodedData 6 false) ((List.range 44).foldl
        (protocolParadoxDecodeBit (repeatedFrame 12 encoded)) decoded)) k =
      if k + (44 + n) < 48 then bitLibGetBit decoded (k + (44 + n))
      else bitLibGetBit data (k + (44 + n) - 48) := by
    induction n with
    | zero => exact hrounds 44 (Nat.le_refl 44)
    | succ n ih =>
      intro k hk
      have hpush := bitLibGetBit_pushes (ih (Nat.le_of_succ_le hn)) hk (by omega)
      rw [hend n (by omega)] at hpush
      rw [@List.range_succ n, List.foldl_append, List.foldl_cons, List.foldl_nil]
      exact hpush
  apply byte_eq_of_bits
  intro k hk
  have hdiv : (8 * i + k) / 8 = i := by omega
  have hmod : (8 * i + k) % 8 = k := by omega
  rw [protocolParadoxDecode, hzeros 4 (Nat.le_refl 4) _ (by omega), if_neg (by omega),
    Nat.add_sub_cancel, bitLibGetBit_eq, hdiv, hmod]

end FlipperZero
