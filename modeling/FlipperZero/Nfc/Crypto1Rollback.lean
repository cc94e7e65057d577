import Mathlib.Tactic.IntervalCases
import FlipperZero.Nfc.Crypto1

/-!
# Rolling the register back

`crypto1_lfsr_rollback_word` undoes `crypto1_word`. Both know a half of the register by its low 24
bits alone, so the register is restored up to the bits above. A step forward loses the highest bit
of a half, and the parity that it puts in at the other end gives it back.
-/

namespace FlipperZero

open Foundation

variable {c d : Crypto1} {x y : BitVec 32}

/-! ### Parity -/

lemma foldl_xor (l : List Nat) (f g : Nat → Bool) (a b : Bool) :
    l.foldl (fun p i => p ^^ (f i ^^ g i)) (a ^^ b) =
      (l.foldl (fun p i => p ^^ f i) a ^^ l.foldl (fun p i => p ^^ g i) b) := by
  induction l generalizing a b with
  | nil => rfl
  | cons i l ih =>
    have hswap : ((a ^^ b) ^^ (f i ^^ g i)) = ((a ^^ f i) ^^ (b ^^ g i)) := by
      simp [Bool.xor_left_comm]
    rw [List.foldl_cons, hswap, ih, List.foldl_cons, List.foldl_cons]

@[simp] lemma evenParity_xor (x y : BitVec 32) :
    evenParity (x ^^^ y) = (evenParity x ^^ evenParity y) := by
  have h := foldl_xor (List.range 32) x.getLsbD y.getLsbD false false
  simpa [evenParity] using h

@[simp] lemma evenParity_bitWord (b : Bool) : evenParity (bitWord b) = b := by
  cases b <;> decide

/-! ### The low bits of a half -/

/-- A half of the register in the bits that count. -/
def low24 (x : BitVec 32) : BitVec 32 := x &&& 0xffffff

/-- Two registers with the same bits. -/
structure Crypto1.Same (c d : Crypto1) : Prop where
  odd : low24 c.odd = low24 d.odd
  even : low24 c.even = low24 d.even

lemma crypto1Filter_low24 (x : BitVec 32) : crypto1Filter (low24 x) = crypto1Filter x := by
  have hnibble (k : Nat) (hmask : (0xffffff : BitVec 32) >>> k &&& 0xf = 0xf) :
      low24 x >>> k &&& 0xf = x >>> k &&& 0xf := by
    rw [low24, BitVec.ushiftRight_and_distrib, BitVec.and_assoc, hmask]
  have hfirst : low24 x &&& 0xf = x &&& 0xf := by
    rw [low24, BitVec.and_assoc]
    rfl
  rw [crypto1Filter, crypto1Filter, hfirst, hnibble 4 (by decide), hnibble 8 (by decide),
    hnibble 12 (by decide), hnibble 16 (by decide)]

lemma lfPolyOdd_and_low24 (x : BitVec 32) : lfPolyOdd &&& low24 x = lfPolyOdd &&& x := by
  have hmask : lfPolyOdd &&& 0xffffff = lfPolyOdd := by decide
  rw [low24, BitVec.and_comm x, ← BitVec.and_assoc, hmask]

/-! ### What a step shifts out and in -/

lemma getLsbD_bitWord (b : Bool) (i : Nat) : (bitWord b).getLsbD i = (b && decide (i = 0)) := by
  cases b with
  | false => simp [bitWord]
  | true => simp [bitWord]

lemma low24_shifted_and_one (x : BitVec 32) (p : Bool) :
    low24 (x <<< 1 ||| bitWord p) &&& 1#32 = bitWord p := by
  apply BitVec.eq_of_getLsbD_eq
  intro i hi
  simp only [low24, BitVec.getLsbD_and, BitVec.getLsbD_or, BitVec.getLsbD_shiftLeft, getLsbD_bitWord]
  interval_cases i <;> simp

lemma low24_shifted_ushiftRight (x : BitVec 32) (p : Bool) :
    low24 (x <<< 1 ||| bitWord p) >>> 1 = x &&& 0x7fffff#32 := by
  apply BitVec.eq_of_getLsbD_eq
  intro i hi
  simp only [low24, BitVec.getLsbD_and, BitVec.getLsbD_or, BitVec.getLsbD_shiftLeft,
    BitVec.getLsbD_ushiftRight, getLsbD_bitWord]
  interval_cases i <;> simp

/-- The feedback of the bits that a step keeps, and of the highest one. -/
lemma lfPolyEven_and_eq (x : BitVec 32) :
    lfPolyEven &&& x = (lfPolyEven &&& (x &&& 0x7fffff#32)) ^^^ bitWord (x.getLsbD 23) <<< 23 := by
  apply BitVec.eq_of_getLsbD_eq
  intro i hi
  simp only [lfPolyEven, BitVec.getLsbD_and, BitVec.getLsbD_xor, BitVec.getLsbD_shiftLeft,
    getLsbD_bitWord]
  interval_cases i <;> simp

lemma low24_restored (x : BitVec 32) :
    low24 ((x &&& 0x7fffff#32) ||| bitWord (x.getLsbD 23) <<< 23) = low24 x := by
  apply BitVec.eq_of_getLsbD_eq
  intro i hi
  simp only [low24, BitVec.getLsbD_and, BitVec.getLsbD_or, BitVec.getLsbD_shiftLeft, getLsbD_bitWord]
  interval_cases i <;> simp

lemma evenParity_bitWord_shiftLeft (b : Bool) : evenParity (bitWord b <<< 23) = b := by
  cases b <;> decide

/-! ### One step -/

lemma evenParity_rollback (c : Crypto1) (bit fb : Bool) :
    evenParity
        (bitWord (evenParity (bitWord (crypto1Filter c.odd && fb) ^^^ bitWord bit ^^^
            (lfPolyOdd &&& c.odd) ^^^ (lfPolyEven &&& c.even))) ^^^
          (lfPolyEven &&& (c.even &&& 0x7fffff#32)) ^^^ (lfPolyOdd &&& c.odd) ^^^ bitWord bit ^^^
          bitWord (crypto1Filter c.odd && fb)) =
      c.even.getLsbD 23 := by
  rw [lfPolyEven_and_eq c.even]
  simp only [evenParity_xor, evenParity_bitWord, evenParity_bitWord_shiftLeft]
  -- all terms but the lost bit occur twice
  generalize evenParity (lfPolyOdd &&& c.odd) = odd
  generalize evenParity (lfPolyEven &&& (c.even &&& 0x7fffff#32)) = even
  generalize (crypto1Filter c.odd && fb) = out
  generalize c.even.getLsbD 23 = lost
  revert odd even out lost bit
  decide

/-- A step backward undoes a step forward and gives the same bit of the key stream. -/
lemma lfsrRollbackBit_crypto1Bit {bit fb : Bool} (h : d.Same (crypto1Bit c bit fb).2) :
    (lfsrRollbackBit d bit fb).1 = (crypto1Bit c bit fb).1 ∧ (lfsrRollbackBit d bit fb).2.Same c := by
  obtain ⟨hodd, heven⟩ := h
  change low24 d.odd = low24 (c.even <<< 1 ||| bitWord _) at hodd
  change low24 d.even = low24 c.odd at heven
  have hfilter : crypto1Filter d.even = crypto1Filter c.odd := by
    rw [← crypto1Filter_low24, heven, crypto1Filter_low24]
  have hpoly : lfPolyOdd &&& d.even = lfPolyOdd &&& c.odd := by
    rw [← lfPolyOdd_and_low24, heven, lfPolyOdd_and_low24]
  refine ⟨hfilter, heven, ?_⟩
  have hmask : d.odd &&& 0xffffff = low24 d.odd := rfl
  simp only [lfsrRollbackBit]
  rw [hmask, hodd, hfilter, hpoly, low24_shifted_and_one, low24_shifted_ushiftRight,
    evenParity_rollback, low24_restored]

/-! ### A word -/

/-- One step of `crypto1_word`. -/
def wordStep (word : BitVec 32) (isEncrypted : Bool) (r : BitVec 32 × Crypto1) (i : Nat) :
    BitVec 32 × Crypto1 :=
  (r.1 ||| bitWord (crypto1Bit r.2 (word.getLsbD (i ^^^ 24)) isEncrypted).1 <<< (24 ^^^ i),
    (crypto1Bit r.2 (word.getLsbD (i ^^^ 24)) isEncrypted).2)

/-- One step of `crypto1_lfsr_rollback_word`. -/
def rollbackStep (word : BitVec 32) (fb : Bool) (r : BitVec 32 × Crypto1) (i : Nat) :
    BitVec 32 × Crypto1 :=
  (r.1 ||| bitWord (lfsrRollbackBit r.2 (word.getLsbD (i ^^^ 24)) fb).1 <<< (24 ^^^ i),
    (lfsrRollbackBit r.2 (word.getLsbD (i ^^^ 24)) fb).2)

variable {word : BitVec 32} {fb : Bool}

lemma crypto1Word_eq (c : Crypto1) (word : BitVec 32) (isEncrypted : Bool) :
    crypto1Word c word isEncrypted = (List.range 32).foldl (wordStep word isEncrypted) (0, c) := rfl

lemma crypto1LfsrRollbackWord_eq (c : Crypto1) (word : BitVec 32) (fb : Bool) :
    crypto1LfsrRollbackWord c word fb =
      (List.range 32).reverse.foldl (rollbackStep word fb) (0, c) := rfl

lemma foldl_wordStep (l : List Nat) (a : BitVec 32) (c : Crypto1) :
    l.foldl (wordStep word fb) (a, c) =
      (a ||| (l.foldl (wordStep word fb) (0, c)).1, (l.foldl (wordStep word fb) (0, c)).2) := by
  induction l generalizing a c with
  | nil => simp
  | cons i l ih =>
    rw [List.foldl_cons, List.foldl_cons, wordStep, wordStep, ih, ih (0 ||| _)]
    simp [BitVec.or_assoc]

lemma foldl_rollbackStep (l : List Nat) (h : d.Same (l.foldl (wordStep word fb) (0, c)).2) :
    (l.reverse.foldl (rollbackStep word fb) (0, d)).1 = (l.foldl (wordStep word fb) (0, c)).1 ∧
      (l.reverse.foldl (rollbackStep word fb) (0, d)).2.Same c := by
  induction l generalizing c with
  | nil => exact ⟨rfl, h⟩
  | cons i l ih =>
    rw [List.foldl_cons, wordStep, foldl_wordStep] at h ⊢
    obtain ⟨hword, hsame⟩ := ih h
    obtain ⟨hbit, hback⟩ := lfsrRollbackBit_crypto1Bit hsame
    rw [List.reverse_cons, List.foldl_append, List.foldl_cons, List.foldl_nil, rollbackStep]
    refine ⟨?_, hback⟩
    simp only [hword, hbit]
    simp [BitVec.or_comm]

/-! ### The nonce -/

lemma getLsbD_wordStep (r : BitVec 32 × Crypto1) {i n : Nat} (hn : n < 32) :
    (wordStep word fb r i).1.getLsbD (24 ^^^ n) =
      (r.1.getLsbD (24 ^^^ n) || (crypto1Filter r.2.odd && decide (n = i))) := by
  have hlt : 24 ^^^ n < 32 := Nat.xor_lt_two_pow (n := 5) (by decide) hn
  have hbit : (bitWord (crypto1Filter r.2.odd) <<< (24 ^^^ i)).getLsbD (24 ^^^ n) =
      (crypto1Filter r.2.odd && decide (n = i)) := by
    rw [BitVec.getLsbD_shiftLeft, getLsbD_bitWord]
    by_cases hni : n = i
    · simp [hni, hni ▸ hlt]
    · have hne : 24 ^^^ n ≠ 24 ^^^ i := fun heq => hni (Nat.xor_right_injective heq)
      simp [hni, hlt]
      omega
  change (r.1 ||| bitWord (crypto1Filter r.2.odd) <<< (24 ^^^ i)).getLsbD (24 ^^^ n) = _
  rw [BitVec.getLsbD_or, hbit]

lemma getLsbD_foldl_wordStep {n m : Nat} (hnm : n < m) (hm : m ≤ 32) :
    ((List.range m).foldl (wordStep word fb) (0, c)).1.getLsbD (24 ^^^ n) =
      crypto1Filter ((List.range n).foldl (wordStep word fb) (0, c)).2.odd := by
  have hbefore (k : Nat) (hk : k ≤ n) :
      ((List.range k).foldl (wordStep word fb) (0, c)).1.getLsbD (24 ^^^ n) = false := by
    induction k with
    | zero => simp
    | succ k ih =>
      rw [List.range_succ, List.foldl_append, List.foldl_cons, List.foldl_nil,
        getLsbD_wordStep _ (Nat.lt_of_lt_of_le hnm hm), ih (Nat.le_of_succ_le hk)]
      simp [Nat.ne_of_gt hk]
  induction m, hnm using Nat.le_induction with
  | base =>
    rw [List.range_succ, List.foldl_append, List.foldl_cons, List.foldl_nil,
      getLsbD_wordStep _ hm, hbefore n (Nat.le_refl n)]
    simp
  | succ m hnm ih =>
    rw [List.range_succ, List.foldl_append, List.foldl_cons, List.foldl_nil,
      getLsbD_wordStep _ (Nat.lt_of_lt_of_le hnm (Nat.le_of_succ_le hm)), ih (Nat.le_of_succ_le hm)]
    simp [Nat.ne_of_lt hnm]

lemma crypto1Bit_encrypted (c : Crypto1) (bit : Bool) :
    crypto1Bit c (bit ^^ crypto1Filter c.odd) true = crypto1Bit c bit false := by
  have hfeed (out : Bool) : bitWord (out && true) ^^^ bitWord (bit ^^ out) =
      bitWord (out && false) ^^^ bitWord bit := by
    revert bit out
    decide
  simp only [crypto1Bit, hfeed]

lemma wordStep_encrypted {keystream : BitVec 32} {r : BitVec 32 × Crypto1} {n : Nat}
    (h : keystream.getLsbD (n ^^^ 24) = crypto1Filter r.2.odd) :
    wordStep (word ^^^ keystream) true r n = wordStep word false r n := by
  have hbit : crypto1Bit r.2 ((word ^^^ keystream).getLsbD (n ^^^ 24)) true =
      crypto1Bit r.2 (word.getLsbD (n ^^^ 24)) false := by
    rw [BitVec.getLsbD_xor, h, crypto1Bit_encrypted]
  rw [wordStep, wordStep, hbit]

lemma foldl_wordStep_encrypted {keystream : BitVec 32}
    (h : ∀ n < 32, keystream.getLsbD (n ^^^ 24) =
      crypto1Filter ((List.range n).foldl (wordStep word false) (0, c)).2.odd) {n : Nat}
    (hn : n ≤ 32) :
    (List.range n).foldl (wordStep (word ^^^ keystream) true) (0, c) =
      (List.range n).foldl (wordStep word false) (0, c) := by
  induction n with
  | zero => simp
  | succ n ih =>
    rw [List.range_succ, List.foldl_append, List.foldl_append, ih (Nat.le_of_succ_le hn)]
    exact wordStep_encrypted (h n hn)

lemma crypto1Word_encrypted (c : Crypto1) (word : BitVec 32) :
    crypto1Word c (word ^^^ (crypto1Word c word false).1) true = crypto1Word c word false := by
  have hbits (n : Nat) (hn : n < 32) : (crypto1Word c word false).1.getLsbD (n ^^^ 24) =
      crypto1Filter ((List.range n).foldl (wordStep word false) (0, c)).2.odd := by
    rw [Nat.xor_comm, crypto1Word_eq]
    exact getLsbD_foldl_wordStep hn (Nat.le_refl 32)
  have hfold := foldl_wordStep_encrypted hbits (Nat.le_refl 32)
  rwa [← crypto1Word_eq, ← crypto1Word_eq] at hfold

/-- A nonce that the card encrypts goes into the register as it is. -/
def encryptedNonce (key : BitVec 48) (cuid nt : BitVec 32) : BitVec 32 :=
  nt ^^^ (crypto1Word (crypto1Init (key.setWidth 64)) (nt ^^^ cuid) false).1

/-- Rolling a word back restores the register in the bits that count and gives the same word of the
key stream. So the nonce that a card has encrypted is recovered from the key. -/
theorem crypto1LfsrRollbackWord_crypto1Word (c : Crypto1) (word : BitVec 32) (fb : Bool) :
    (crypto1LfsrRollbackWord (crypto1Word c word fb).2 word fb).1 = (crypto1Word c word fb).1 ∧
      (crypto1LfsrRollbackWord (crypto1Word c word fb).2 word fb).2.Same c ∧
      ∀ key cuid nt, crypto1DecryptNtEnc cuid (encryptedNonce key cuid nt) key = nt := by
  have hback (c : Crypto1) (word : BitVec 32) (fb : Bool) :
      (crypto1LfsrRollbackWord (crypto1Word c word fb).2 word fb).1 = (crypto1Word c word fb).1 ∧
        (crypto1LfsrRollbackWord (crypto1Word c word fb).2 word fb).2.Same c := by
    rw [crypto1LfsrRollbackWord_eq, crypto1Word_eq]
    exact foldl_rollbackStep (List.range 32) ⟨rfl, rfl⟩
  refine ⟨(hback c word fb).1, (hback c word fb).2, fun key cuid nt => ?_⟩
  have hword : encryptedNonce key cuid nt ^^^ cuid = (nt ^^^ cuid) ^^^
      (crypto1Word (crypto1Init (key.setWidth 64)) (nt ^^^ cuid) false).1 := by
    rw [encryptedNonce, BitVec.xor_assoc, BitVec.xor_comm _ cuid, ← BitVec.xor_assoc]
  simp only [crypto1DecryptNtEnc, hword]
  rw [(hback _ _ true).1, crypto1Word_encrypted, encryptedNonce, BitVec.xor_assoc, BitVec.xor_self,
    BitVec.xor_zero]

end FlipperZero
