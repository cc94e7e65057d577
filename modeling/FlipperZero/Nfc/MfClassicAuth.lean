import FlipperZero.Nfc.Crypto1Lockstep
import FlipperZero.Nfc.Crypto1Rollback
import FlipperZero.Nfc.MfClassicPoller

/-!
# Both sides of an authentication

The listener and the poller feed the nonces to their registers in different forms: as words, as
bytes, or encrypted with the feedback of the filter. All of them are the same bits, so that the
registers stay equal and the listener accepts the answer of the poller.
-/

namespace FlipperZero

open Foundation

/-! ### Bytes of a word -/

/-- The register after some bits. -/
def feedBits (c : Crypto1) (bit : Nat → Bool) (n : Nat) : Crypto1 :=
  (List.range n).foldl (fun c i => (crypto1Bit c (bit i) false).2) c

lemma feedBits_add (c : Crypto1) (bit : Nat → Bool) (m n : Nat) :
    feedBits c bit (m + n) = feedBits (feedBits c bit m) (fun i => bit (m + i)) n := by
  rw [feedBits, List.range_add, List.foldl_append, List.foldl_map]
  rfl

lemma feedBits_congr {bit bit' : Nat → Bool} {n : Nat} (h : ∀ i < n, bit i = bit' i)
    (c : Crypto1) : feedBits c bit n = feedBits c bit' n := by
  induction n with
  | zero => simp only [feedBits, List.range_zero, List.foldl_nil]
  | succ n ih =>
    rw [feedBits_add, feedBits_add, ih fun i hi => h i (Nat.lt_succ_of_lt hi)]
    simp [feedBits, h n (Nat.lt_succ_self n)]

/-- The bits of a word in the order in which the register gets them. -/
def wordBit (w : BitVec 32) (i : Nat) : Bool := w.getLsbD (i ^^^ 24)

lemma word_index {k j : Nat} (hk : k < 4) (hj : j < 8) : (8 * k + j) ^^^ 24 = 8 * (3 - k) + j := by
  revert j
  revert k
  decide

/-- A byte of a word, the first one on top. -/
def wordByte (w : BitVec 32) (k : Nat) : BitVec 8 := w.extractLsb' (8 * (3 - k)) 8

lemma wordBit_byte (w : BitVec 32) {k j : Nat} (hk : k < 4) (hj : j < 8) :
    wordBit w (8 * k + j) = (wordByte w k).getLsbD j := by
  rw [wordBit, word_index hk hj, wordByte, BitVec.getLsbD_extractLsb']
  simp [hj]

lemma getLsbD_crypto1Byte (c : Crypto1) (byte : BitVec 8) {j : Nat} (hj : j < 8) :
    (crypto1Byte c byte false).1.getLsbD j =
      crypto1Filter (feedBits c byte.getLsbD j).odd := by
  have hfold (n : Nat) (hn : n ≤ 8) :
      let r := (List.range n).foldl (fun (r : BitVec 8 × Crypto1) i =>
        let step := crypto1Bit r.2 (byte.getLsbD i) false
        (r.1 ||| (if step.1 then 1 else 0) <<< i, step.2)) ((0 : BitVec 8), c)
      r.2 = feedBits c byte.getLsbD n ∧ ∀ j, r.1.getLsbD j =
        (decide (j < n) && crypto1Filter (feedBits c byte.getLsbD j).odd) := by
    induction n with
    | zero => simp [feedBits]
    | succ n ih =>
      obtain ⟨hregister, hbits⟩ := ih (Nat.le_of_succ_le hn)
      simp only [List.range_succ, List.foldl_append, List.foldl_cons, List.foldl_nil] at *
      refine ⟨?_, fun j => ?_⟩
      · rw [hregister, feedBits_add]
        rfl
      · rw [BitVec.getLsbD_or, hbits, getLsbD_bitAt _ hn, hregister]
        rcases Nat.lt_trichotomy j n with hlt | rfl | hgt
        · simp [hlt, Nat.lt_succ_of_lt hlt, Nat.ne_of_lt hlt]
        · simp [crypto1Bit]
        · simp [Nat.ne_of_gt hgt, Nat.not_lt.mpr (Nat.le_of_lt hgt),
            Nat.not_lt.mpr (Nat.succ_le_of_lt hgt)]
  refine ((hfold 8 (Nat.le_refl 8)).2 j).trans ?_
  simp [hj]

lemma foldl_wordStep_snd (c : Crypto1) (w : BitVec 32) (n : Nat) :
    ((List.range n).foldl (wordStep w false) (0, c)).2 = feedBits c (wordBit w) n :=
  (List.foldl_hom Prod.snd fun _ _ => rfl).symm

lemma getLsbD_crypto1Word (c : Crypto1) (w : BitVec 32) {n : Nat} (hn : n < 32) :
    (crypto1Word c w false).1.getLsbD (24 ^^^ n) =
      crypto1Filter (feedBits c (wordBit w) n).odd := by
  rw [crypto1Word_eq, getLsbD_foldl_wordStep hn (Nat.le_refl 32), foldl_wordStep_snd]

/-- Four bytes as a word. -/
def wordOf (b : Nat → BitVec 8) : BitVec 32 := b 0 ++ b 1 ++ b 2 ++ b 3

lemma getLsbD_wordOf (b : Nat → BitVec 8) {k j : Nat} (hk : k < 4) (hj : j < 8) :
    (wordOf b).getLsbD (8 * (3 - k) + j) = (b k).getLsbD j := by
  simp only [wordOf, BitVec.getLsbD_append]
  interval_cases k <;> (repeat rw [if_neg (by omega)]) <;> first
    | rw [if_pos (by omega)]; congr 1; omega
    | congr 1; omega

lemma wordByte_wordOf (b : Nat → BitVec 8) {k : Nat} (hk : k < 4) :
    wordByte (wordOf b) k = b k := by
  apply BitVec.eq_of_getLsbD_eq
  intro j hj
  rw [wordByte, BitVec.getLsbD_extractLsb', getLsbD_wordOf b hk hj]
  simp [hj]

lemma wordOf_congr {b b' : Nat → BitVec 8} (h : ∀ k < 4, b k = b' k) : wordOf b = wordOf b' := by
  simp only [wordOf, h 0 (by decide), h 1 (by decide), h 2 (by decide), h 3 (by decide)]

lemma word_ext {v w : BitVec 32} (h : ∀ k < 4, wordByte v k = wordByte w k) : v = w := by
  apply BitVec.eq_of_getLsbD_eq
  intro i hi
  have hbyte := congrArg (BitVec.getLsbD · (i % 8)) (h (3 - i / 8) (by omega))
  have hindex : 8 * (3 - (3 - i / 8)) + i % 8 = i := by omega
  simpa [wordByte, hindex, Nat.mod_lt] using hbyte

lemma wordOf_wordByte (w : BitVec 32) : wordOf (wordByte w) = w :=
  word_ext fun _ hk => wordByte_wordOf _ hk

lemma wordByte_xor (v w : BitVec 32) (k : Nat) :
    wordByte (v ^^^ w) k = wordByte v k ^^^ wordByte w k := by
  apply BitVec.eq_of_getLsbD_eq
  intro j hj
  simp [wordByte, hj]

lemma wordOf_xor (b b' : Nat → BitVec 8) :
    (wordOf fun k => b k ^^^ b' k) = wordOf b ^^^ wordOf b' :=
  word_ext fun k hk => by rw [wordByte_xor, wordByte_wordOf _ hk, wordByte_wordOf _ hk,
    wordByte_wordOf _ hk]

/-- The register after the first bytes of a word. -/
def feedBytes (c : Crypto1) (b : Nat → BitVec 8) (n : Nat) : Crypto1 :=
  (List.range n).foldl (fun c i => (crypto1Byte c (b i) false).2) c

lemma feedBytes_eq (c : Crypto1) (b : Nat → BitVec 8) {k : Nat} (hk : k ≤ 4) :
    feedBytes c b k = feedBits c (wordBit (wordOf b)) (8 * k) := by
  induction k with
  | zero => simp only [feedBytes, feedBits, Nat.mul_zero, List.range_zero, List.foldl_nil]
  | succ k ih =>
    rw [feedBytes, List.range_succ, List.foldl_append, ← feedBytes, ih (Nat.le_of_succ_le hk),
      Nat.mul_succ, feedBits_add, List.foldl_cons, List.foldl_nil, crypto1Byte_snd]
    refine feedBits_congr (fun i hi => ?_) _
    rw [wordBit_byte _ hk hi, wordByte_wordOf _ hk]

lemma crypto1Word_wordOf (c : Crypto1) (b : Nat → BitVec 8) :
    crypto1Word c (wordOf b) false =
      (wordOf fun k => (crypto1Byte (feedBytes c b k) (b k) false).1, feedBytes c b 4) := by
  apply Prod.ext
  · apply BitVec.eq_of_getLsbD_eq
    intro i hi
    obtain ⟨k, j, hk, hj, rfl⟩ : ∃ k j, k < 4 ∧ j < 8 ∧ i = 8 * (3 - k) + j :=
      ⟨3 - i / 8, i % 8, by omega, by omega, by omega⟩
    have hbyte (w : BitVec 32) : w.getLsbD (8 * (3 - k) + j) = (wordByte w k).getLsbD j := by
      rw [← wordBit_byte w hk hj, wordBit, word_index hk hj]
    have hindex : 8 * (3 - k) + j = 24 ^^^ (8 * k + j) := by rw [Nat.xor_comm, word_index hk hj]
    rw [hbyte (wordOf _), wordByte_wordOf _ hk, getLsbD_crypto1Byte _ _ hj, hindex,
      getLsbD_crypto1Word _ _ (by omega), feedBits_add, feedBytes_eq _ _ (Nat.le_of_lt hk)]
    congr 2
    refine feedBits_congr (fun i hi => ?_) _
    rw [wordBit_byte _ hk (by omega), wordByte_wordOf _ hk]
  · rw [feedBytes_eq _ _ (Nat.le_refl 4), crypto1Word_snd]
    rfl

/-! ### Bytes of a frame -/

lemma bytesToNumBe_eq (l : List (BitVec 8)) : bytesToNumBe l = wordOf fun k => l.getD k 0 := rfl

lemma bytesToNumBe_bytes (buf : BitBuffer) (start : Nat) :
    bytesToNumBe (buf.bytes start 4) = wordOf fun k => buf.data (start + k) := rfl

lemma numToBytesBe_getD (w : BitVec 32) {k : Nat} (hk : k < 4) :
    (numToBytesBe w).getD k 0 = wordByte w k := by
  interval_cases k <;> rfl

/-- One byte of a frame: what goes into the register and what is sent. -/
def sendByte (feed plain : BitVec 8) (r : Crypto1 × BitBuffer) (i : Nat) :
    Option (Crypto1 × BitBuffer) :=
  (r.2.setByteWithParity i ((crypto1Byte r.1 feed false).1 ^^^ plain)
    (crypto1Filter (crypto1Byte r.1 feed false).2.odd ^^ oddParity8 plain)).map fun out =>
      ((crypto1Byte r.1 feed false).2, out)

/-- The bytes from `start` on have been sent. -/
structure SentBytes (r : Crypto1 × BitBuffer) (feed plain : Nat → BitVec 8) (start n : Nat)
    (r' : Crypto1 × BitBuffer) : Prop where
  register : r'.1 = feedBytes r.1 feed n
  sizeBits : r'.2.sizeBits = r.2.sizeBits
  capacity : r'.2.capacityBytes = r.2.capacityBytes
  sent     : ∀ k < n, r'.2.data (start + k) =
    (crypto1Byte (feedBytes r.1 feed k) (feed k) false).1 ^^^ plain k
  before   : ∀ i < start, r'.2.data i = r.2.data i

lemma SentBytes.zero (r : Crypto1 × BitBuffer) (feed plain : Nat → BitVec 8) (start : Nat) :
    SentBytes r feed plain start 0 r :=
  ⟨rfl, rfl, rfl, fun _ hk => absurd hk (Nat.not_lt_zero _), fun _ _ => rfl⟩

lemma SentBytes.succ {r r' : Crypto1 × BitBuffer} {feed plain : Nat → BitVec 8} {start n : Nat}
    (h : SentBytes r feed plain start n r') (hn : start + n < r.2.sizeBits / 8) :
    ∃ r'', sendByte (feed n) (plain n) r' (start + n) = some r'' ∧
      SentBytes r feed plain start (n + 1) r'' := by
  obtain ⟨hregister, hsize, hcapacity, hsent, hbefore⟩ := h
  rw [sendByte, BitBuffer.setByteWithParity, if_pos (hsize ▸ hn)]
  refine ⟨_, rfl, ?_, hsize, hcapacity, ?_, ?_⟩
  · rw [feedBytes, List.range_succ, List.foldl_append, ← feedBytes, ← hregister]
    rfl
  · intro k hk
    rcases Nat.lt_succ_iff_lt_or_eq.mp hk with hlt | rfl
    · simp [Function.update_of_ne (show start + k ≠ start + n by omega), hsent k hlt]
    · simp [hregister]
  · intro i hi
    simp [Function.update_of_ne (show i ≠ start + n by omega), hbefore i hi]

lemma sendBytes (r : Crypto1 × BitBuffer) (feed plain : Nat → BitVec 8) (start : Nat)
    (h : start + 4 ≤ r.2.sizeBits / 8) :
    ∃ r₁ r₂ r₃ r₄, sendByte (feed 0) (plain 0) r start = some r₁ ∧
      sendByte (feed 1) (plain 1) r₁ (start + 1) = some r₂ ∧
      sendByte (feed 2) (plain 2) r₂ (start + 2) = some r₃ ∧
      sendByte (feed 3) (plain 3) r₃ (start + 3) = some r₄ ∧
      SentBytes r feed plain start 4 r₄ := by
  obtain ⟨r₁, h₁, hsent₁⟩ := (SentBytes.zero r feed plain start).succ (by omega)
  obtain ⟨r₂, h₂, hsent₂⟩ := hsent₁.succ (by omega)
  obtain ⟨r₃, h₃, hsent₃⟩ := hsent₂.succ (by omega)
  obtain ⟨r₄, h₄, hsent₄⟩ := hsent₃.succ (by omega)
  exact ⟨r₁, r₂, r₃, r₄, h₁, h₂, h₃, h₄, hsent₄⟩

lemma SentBytes.word {r r' : Crypto1 × BitBuffer} {feed plain : Nat → BitVec 8} {start : Nat}
    (h : SentBytes r feed plain start 4 r') :
    r'.1 = (crypto1Word r.1 (wordOf feed) false).2 ∧
      (wordOf fun k => r'.2.data (start + k)) =
        (crypto1Word r.1 (wordOf feed) false).1 ^^^ wordOf plain := by
  rw [crypto1Word_wordOf, ← wordOf_xor]
  exact ⟨h.register, wordOf_congr h.sent⟩

/-! ### The successors of a nonce -/

lemma getLsbD_swapEndian (x : BitVec 32) {i : Nat} (hi : i < 32) :
    (swapEndian x).getLsbD i = x.getLsbD (i ^^^ 24) := by
  interval_cases i <;> simp [swapEndian]

lemma swapEndian_swapEndian (x : BitVec 32) : swapEndian (swapEndian x) = x := by
  apply BitVec.eq_of_getLsbD_eq
  intro i hi
  have hlt : i ^^^ 24 < 32 := Nat.xor_lt_two_pow (n := 5) hi (by decide)
  rw [getLsbD_swapEndian _ hi, getLsbD_swapEndian _ hlt, Nat.xor_assoc, Nat.xor_self, Nat.xor_zero]

lemma prngSuccessor_add (x : BitVec 32) (m n : Nat) :
    crypto1PrngSuccessor (crypto1PrngSuccessor x m) n = crypto1PrngSuccessor x (m + n) := by
  rw [crypto1PrngSuccessor, crypto1PrngSuccessor, crypto1PrngSuccessor, swapEndian_swapEndian,
    Nat.add_comm, Function.iterate_add_apply]

lemma getLsbD_prngStep_iterate (x : BitVec 32) {m i : Nat} (hi : i + m < 32) :
    (crypto1PrngStep^[m] x).getLsbD i = x.getLsbD (i + m) := by
  induction m generalizing i with
  | zero => rfl
  | succ m ih =>
    rw [Function.iterate_succ_apply']
    have hstep (y : BitVec 32) : (crypto1PrngStep y).getLsbD i = y.getLsbD (i + 1) := by
      rw [crypto1PrngStep, BitVec.getLsbD_or, BitVec.getLsbD_ushiftRight, BitVec.getLsbD_shiftLeft]
      simp [show i < 31 by omega, Nat.add_comm]
    rw [hstep, ih (by omega)]
    congr 1
    omega

lemma wordByte_prngSuccessor (x : BitVec 32) (n : Nat) {k : Nat} (hk : k < 4) :
    wordByte (crypto1PrngSuccessor x (n + 8 * (3 - k))) k =
      (crypto1PrngSuccessor x n).setWidth 8 := by
  apply BitVec.eq_of_getLsbD_eq
  intro j hj
  have hlow : j ^^^ 24 = 24 + j := by
    rw [← word_index (k := 0) (by decide) hj]
    simp
  rw [← wordBit_byte _ hk hj, wordBit, word_index hk hj, BitVec.getLsbD_setWidth,
    crypto1PrngSuccessor, crypto1PrngSuccessor, Nat.add_comm n, Function.iterate_add_apply,
    getLsbD_swapEndian _ (by omega), getLsbD_swapEndian _ (by omega), ← word_index hk hj,
    Nat.xor_assoc, Nat.xor_self, Nat.xor_zero, getLsbD_prngStep_iterate _ (by omega), hlow]
  simp only [hj, decide_true, Bool.true_and]
  congr 1
  omega

/-! ### What both sides compute -/

lemma crypto1Encrypt_word (c : Crypto1) (keystream : List (BitVec 8)) {buff : BitBuffer}
    (out : BitBuffer)
    (hsize : buff.getSize = 32) (hout : 32 ≤ out.capacityBytes * 8) :
    ∃ c' out', crypto1Encrypt c keystream buff out = some (c', out') ∧
      SentBytes (c, { out with sizeBits := 32 }) (fun k => keystream.getD k 0) buff.data 0 4
        (c', out') := by
  obtain ⟨r₁, r₂, r₃, r₄, h₁, h₂, h₃, h₄, hsent⟩ :=
    sendBytes (c, { out with sizeBits := 32 }) (fun k => keystream.getD k 0) buff.data 0
      (by simp)
  refine ⟨r₄.1, r₄.2, ?_, hsent⟩
  rw [crypto1Encrypt, BitBuffer.setSize, hsize, if_pos hout, Option.bind_some, if_neg (by decide)]
  change [0, 1, 2, 3].foldlM
    (fun r i => sendByte (keystream.getD i 0) (buff.data i) r i)
    (c, { out with sizeBits := 32 }) = _
  simp only [Nat.zero_add] at h₁ h₂ h₃ h₄
  simp only [List.foldlM_cons, List.foldlM_nil, h₁, h₂, h₃, h₄, Option.bind_eq_bind,
    Option.bind_some]
  rfl

lemma encryptNonceByte_eq {c : Crypto1} {nr : List (BitVec 8)} {out : BitBuffer} {i : Nat}
    {r : Crypto1 × BitBuffer} (h : sendByte (nr.getD i 0) (nr.getD i 0) (c, out) i = some r) :
    ∃ byte, crypto1EncryptNonceByte (c, nr, out) i = some (r.1, nr.set i byte, r.2) := by
  obtain ⟨out', hout, rfl⟩ := Option.map_eq_some_iff.mp h
  exact ⟨_, by rw [crypto1EncryptNonceByte]; exact Option.map_eq_some_iff.mpr ⟨out', hout, rfl⟩⟩

/-- The nonce of the reader: a byte that is replaced has been read. -/
lemma encryptNonce_eq (c : Crypto1) (nr : List (BitVec 8)) (out : BitBuffer)
    (hout : 4 ≤ out.sizeBits / 8) :
    ∃ nr' r, [0, 1, 2, 3].foldlM crypto1EncryptNonceByte (c, nr, out) = some (r.1, nr', r.2) ∧
      SentBytes (c, out) (nr.getD · 0) (nr.getD · 0) 0 4 r := by
  obtain ⟨r₁, r₂, r₃, r₄, h₁, h₂, h₃, h₄, hsent⟩ :=
    sendBytes (c, out) (nr.getD · 0) (nr.getD · 0) 0 (by omega)
  have hset (l : List (BitVec 8)) (b : BitVec 8) (i j : Nat) (hij : i ≠ j) :
      (l.set i b).getD j 0 = l.getD j 0 := by
    simp [List.getElem?_set_ne hij]
  obtain ⟨b₁, e₁⟩ := encryptNonceByte_eq h₁
  rw [← hset nr b₁ 0 1 (by decide)] at h₂
  obtain ⟨b₂, e₂⟩ := encryptNonceByte_eq h₂
  rw [← hset nr b₁ 0 2 (by decide), ← hset _ b₂ 1 2 (by decide)] at h₃
  obtain ⟨b₃, e₃⟩ := encryptNonceByte_eq h₃
  rw [← hset nr b₁ 0 3 (by decide), ← hset _ b₂ 1 3 (by decide),
    ← hset _ b₃ 2 3 (by decide)] at h₄
  obtain ⟨b₄, e₄⟩ := encryptNonceByte_eq h₄
  refine ⟨(((nr.set 0 b₁).set 1 b₂).set 2 b₃).set 3 b₄, r₄, ?_, hsent⟩
  simp only [List.foldlM_cons, List.foldlM_nil, e₁, e₂, e₃, e₄, Option.bind_eq_bind,
    Option.bind_some]
  rfl

lemma encryptAnswerByte_eq {c : Crypto1} {x : BitVec 32} {out : BitBuffer} {i : Nat}
    {r : Crypto1 × BitBuffer}
    (h : sendByte 0 ((crypto1PrngSuccessor x 8).setWidth 8) (c, out) i = some r) :
    crypto1EncryptAnswerByte (c, x, out) i = some (r.1, crypto1PrngSuccessor x 8, r.2) := by
  obtain ⟨out', hout, rfl⟩ := Option.map_eq_some_iff.mp h
  rw [crypto1EncryptAnswerByte]
  exact Option.map_eq_some_iff.mpr ⟨out', hout, rfl⟩

lemma encryptAnswer_eq (c : Crypto1) (nt : BitVec 32) (out : BitBuffer)
    (hout : 8 ≤ out.sizeBits / 8) :
    ∃ r, [4, 5, 6, 7].foldlM crypto1EncryptAnswerByte
        (c, crypto1PrngSuccessor nt 32, out) = some (r.1, crypto1PrngSuccessor nt 64, r.2) ∧
      SentBytes (c, out) (fun _ => 0) (wordByte (crypto1PrngSuccessor nt 64)) 4 4 r := by
  have hbyte (k : Nat) (hk : k < 4) : wordByte (crypto1PrngSuccessor nt 64) k =
      (crypto1PrngSuccessor (crypto1PrngSuccessor nt (32 + 8 * k)) 8).setWidth 8 := by
    rw [prngSuccessor_add, ← wordByte_prngSuccessor _ _ hk]
    congr 2
    omega
  obtain ⟨r₁, r₂, r₃, r₄, h₁, h₂, h₃, h₄, hsent⟩ :=
    sendBytes (c, out) (fun _ => 0) (wordByte (crypto1PrngSuccessor nt 64)) 4 hout
  rw [hbyte _ (by decide)] at h₁ h₂ h₃ h₄
  have e₁ := encryptAnswerByte_eq h₁
  have e₂ := encryptAnswerByte_eq h₂
  have e₃ := encryptAnswerByte_eq h₃
  have e₄ := encryptAnswerByte_eq h₄
  rw [prngSuccessor_add] at e₁ e₂ e₃ e₄
  refine ⟨r₄, ?_, hsent⟩
  simp only [Nat.mul_zero, Nat.mul_one, Nat.reduceMul, Nat.reduceAdd] at e₁ e₂ e₃ e₄
  simp only [List.foldlM_cons, List.foldlM_nil, e₁, e₂, e₃, e₄, Option.bind_eq_bind,
    Option.bind_some]
  rfl

/-- The register after the nonces of both sides. -/
def crypto1AfterNonces (key : BitVec 64) (cuid nt nr : BitVec 32) : Crypto1 :=
  (crypto1Word (crypto1Word (crypto1Init key) (nt ^^^ cuid) false).2 nr false).2

/-- The answer of the reader as words. -/
structure ReaderAnswer (key : BitVec 64) (cuid nt nr : BitVec 32) (out : BitBuffer) : Prop where
  size   : out.sizeBits = 64
  nonce  : wordOf out.data =
    (crypto1Word (crypto1Word (crypto1Init key) (nt ^^^ cuid) false).2 nr false).1 ^^^ nr
  answer : (wordOf fun k => out.data (4 + k)) =
    (crypto1Word (crypto1AfterNonces key cuid nt nr) 0 false).1 ^^^ crypto1PrngSuccessor nt 64

/-- The nonce of the card as it is sent. -/
def crypto1SentNonce (key : BitVec 64) (cuid nt : BitVec 32) (isNested : Bool) : BitVec 32 :=
  if isNested then (crypto1Word (crypto1Init key) (nt ^^^ cuid) false).1 ^^^ nt else nt

lemma feedCardNonce_eq (key : BitVec 64) (cuid nt : BitVec 32) (isNested : Bool) :
    crypto1FeedCardNonce key cuid (crypto1SentNonce key cuid nt isNested) isNested =
      ((crypto1Word (crypto1Init key) (nt ^^^ cuid) false).2, nt) := by
  cases isNested with
  | false => rfl
  | true =>
    have hword : crypto1SentNonce key cuid nt true ^^^ cuid =
        (nt ^^^ cuid) ^^^ (crypto1Word (crypto1Init key) (nt ^^^ cuid) false).1 := by
      rw [crypto1SentNonce, if_pos rfl, BitVec.xor_assoc, BitVec.xor_comm]
    rw [crypto1FeedCardNonce, if_pos rfl, hword, crypto1Word_encrypted, crypto1SentNonce,
      if_pos rfl]
    refine Prod.ext rfl ?_
    simp only [← BitVec.xor_assoc, BitVec.xor_self, BitVec.zero_xor]

lemma encryptReaderNonce_eq {key : BitVec 64} {cuid nt : BitVec 32} {sent : List (BitVec 8)}
    (nr : List (BitVec 8)) (out : BitBuffer) {isNested : Bool}
    (hsent : bytesToNumBe sent = crypto1SentNonce key cuid nt isNested)
    (hout : 8 ≤ out.capacityBytes) :
    ∃ nr' out', crypto1EncryptReaderNonce key cuid sent nr out isNested =
        some ((crypto1Word (crypto1AfterNonces key cuid nt (bytesToNumBe nr)) 0 false).2, nr',
          out') ∧
      ReaderAnswer key cuid nt (bytesToNumBe nr) out' := by
  rw [crypto1EncryptReaderNonce, BitBuffer.setSizeBytes, if_pos hout, Option.bind_some, hsent,
    feedCardNonce_eq]
  obtain ⟨nr', r, hnonce, hsent⟩ := encryptNonce_eq
    (crypto1Word (crypto1Init key) (nt ^^^ cuid) false).2 nr { out with sizeBits := 8 * 8 }
    (by simp)
  obtain ⟨r', hanswer, hsent'⟩ := encryptAnswer_eq r.1 nt r.2 (by rw [hsent.sizeBits]; simp)
  obtain ⟨hregister, hword⟩ := hsent.word
  obtain ⟨hregister', hword'⟩ := hsent'.word
  rw [wordOf_wordByte] at hword'
  have hafter : r.1 = crypto1AfterNonces key cuid nt (bytesToNumBe nr) := hregister
  rw [hafter] at hregister' hword'
  refine ⟨nr', r'.2, ?_, ?_, ?_, hword'⟩
  · simp only [hnonce, hanswer, Option.bind_some, Option.map_some, hregister']
    rfl
  · rw [hsent'.sizeBits, hsent.sizeBits]
  · have hsame : wordOf r'.2.data = wordOf r.2.data :=
      wordOf_congr fun k hk => hsent'.before k hk
    rw [hsame, bytesToNumBe_eq, ← hword]
    exact wordOf_congr fun k _ => by rw [Nat.zero_add]

/-! ### The two sides of an authentication -/

lemma copyBytes_numToBytesBe {buf : BitBuffer} (h : 4 ≤ buf.capacityBytes) (w : BitVec 32) :
    ∃ tx, buf.copyBytes (numToBytesBe w) = some tx ∧ tx.sizeBits = 32 ∧
      tx.capacityBytes = buf.capacityBytes ∧ wordOf tx.data = w := by
  refine ⟨_, if_pos h, rfl, rfl, (wordOf_congr fun k hk => ?_).trans (wordOf_wordByte w)⟩
  rw [← numToBytesBe_getD w hk]
  exact if_pos ⟨Nat.zero_le k, (Nat.zero_add 4).symm ▸ hk⟩

/-- The listener has sent its nonce for the key. -/
structure MfClassicListener.NonceSent (s : MfClassicListener) (key : BitVec 64) (nt : BitVec 32)
    (s₁ : MfClassicListener) : Prop where
  crypto    : s₁.crypto = (crypto1Word (crypto1Init key) (nt ^^^ s.data.cuid) false).2
  nonce     : s₁.authContext.nt = nt
  size      : s₁.txEncryptedBuffer.sizeBits = 32
  sent      : wordOf s₁.txEncryptedBuffer.data =
    crypto1SentNonce key s.data.cuid nt (s.commState = .encrypted)
  plain     : s₁.txPlainBuffer.capacityBytes = s.txPlainBuffer.capacityBytes
  encrypted : s₁.txEncryptedBuffer.capacityBytes = s.txEncryptedBuffer.capacityBytes

lemma encrypt_word {s : MfClassicListener} (keystream : List (BitVec 8))
    (hsize : s.txPlainBuffer.sizeBits = 32) (hcapacity : 4 ≤ s.txEncryptedBuffer.capacityBytes) :
    ∃ c out, s.encrypt keystream = some { s with crypto := c, txEncryptedBuffer := out } ∧
      out.sizeBits = 32 ∧ out.capacityBytes = s.txEncryptedBuffer.capacityBytes ∧
      c = (crypto1Word s.crypto (bytesToNumBe keystream) false).2 ∧
      wordOf out.data = (crypto1Word s.crypto (bytesToNumBe keystream) false).1 ^^^
        wordOf s.txPlainBuffer.data := by
  obtain ⟨c, out, hencrypt, hsent⟩ :=
    crypto1Encrypt_word s.crypto keystream s.txEncryptedBuffer hsize (by omega)
  obtain ⟨hregister, hword⟩ := hsent.word
  refine ⟨c, out, ?_, hsent.sizeBits, hsent.capacity, hregister, ?_⟩
  · rw [MfClassicListener.encrypt, hencrypt]
    rfl
  · rw [bytesToNumBe_eq, ← hword]
    exact wordOf_congr fun k _ => by rw [Nat.zero_add]

lemma sendNonce_eq {s : MfClassicListener} {key : BitVec 64} {nt : BitVec 32}
    (hkey : s.crypto = crypto1Init key) (hnt : s.authContext.nt = nt)
    (hplain : 4 ≤ s.txPlainBuffer.capacityBytes)
    (hencrypted : 4 ≤ s.txEncryptedBuffer.capacityBytes) :
    ∃ s₁, mfClassicListenerSendNonce s nt = some s₁ ∧ s.NonceSent key nt s₁ := by
  rw [mfClassicListenerSendNonce]
  by_cases hcomm : s.commState = .plain
  · obtain ⟨tx, htx, hsize, hcapacity, hword⟩ := copyBytes_numToBytesBe hencrypted nt
    refine ⟨{ s with
      crypto := (crypto1Word s.crypto (nt ^^^ s.data.cuid) false).2
      txEncryptedBuffer := tx }, ?_, ?_⟩
    · rw [if_pos hcomm, htx, Option.map_some]
    · refine ⟨by rw [← hkey], hnt, hsize, ?_, rfl, hcapacity⟩
      rw [crypto1SentNonce, if_neg (by simp [hcomm])]
      exact hword
  · obtain ⟨tx, htx, hsize, hcapacity, hword⟩ := copyBytes_numToBytesBe hplain nt
    have hnum : bytesToNumBe (numToBytesBe (nt ^^^ s.data.cuid)) = nt ^^^ s.data.cuid := by
      rw [bytesToNumBe_eq, wordOf_congr fun k hk => numToBytesBe_getD _ hk, wordOf_wordByte]
    obtain ⟨c, out, hencrypt, hout, hcap, hc, hsent⟩ := encrypt_word (s :=
      { s with txPlainBuffer := tx }) (numToBytesBe (nt ^^^ s.data.cuid)) hsize hencrypted
    rw [hnum] at hc hsent
    have hnested : s.commState = .encrypted := by
      cases hstate : s.commState with
      | plain     => exact absurd hstate hcomm
      | encrypted => rfl
    refine ⟨{ s with txPlainBuffer := tx, crypto := c, txEncryptedBuffer := out }, ?_, ?_⟩
    · rw [if_neg hcomm, htx, Option.bind_some, hencrypt]
    · refine ⟨hc.trans (by rw [← hkey]), hnt, hout, hsent.trans ?_, hcapacity, hcap⟩
      rw [crypto1SentNonce, if_pos (by simp [hnested]), ← hkey, hword]

lemma authFirstPart_eq (s : MfClassicListener) (keyType : MfClassicKeyType) (buff : BitBuffer)
    (nt : BitVec 32) (hblock : (buff.getByte 1).toNat < s.totalBlockNum)
    (hplain : 4 ≤ s.txPlainBuffer.capacityBytes)
    (hencrypted : 4 ≤ s.txEncryptedBuffer.capacityBytes) :
    ∃ s₁, mfClassicListenerAuthFirstPartHandler keyType s buff nt = some (.processed, s₁) ∧
      s.NonceSent (s.data.getKey (mfClassicGetSectorByBlock (buff.getByte 1)) keyType) nt s₁ := by
  obtain ⟨s₁, hsend, hsent⟩ := sendNonce_eq (s :=
    { s with
      state := .idle
      authContext := { s.authContext with
        keyType := keyType, blockNum := buff.getByte 1, nt := nt }
      crypto := crypto1Init (s.data.getKey (mfClassicGetSectorByBlock (buff.getByte 1)) keyType) })
    rfl rfl hplain hencrypted
  refine ⟨s₁.nextFrame, ?_, hsent.crypto, hsent.nonce, hsent.size, hsent.sent, hsent.plain,
    hsent.encrypted⟩
  rw [mfClassicListenerAuthFirstPartHandler, if_neg (Nat.not_le_of_lt hblock)]
  exact Option.map_eq_some_iff.mpr ⟨s₁, hsend, rfl⟩

/-- The listener has taken the answer of the reader and sent its own. -/
structure MfClassicListener.AnswerSent (key : BitVec 64) (cuid nt nr : BitVec 32)
    (s₂ : MfClassicListener) : Prop where
  crypto : s₂.crypto =
    (crypto1Word (crypto1Word (crypto1AfterNonces key cuid nt nr) 0 false).2 0 false).2
  size   : s₂.txEncryptedBuffer.sizeBits = 32
  state  : s₂.state = .authComplete

lemma authSecondPart_eq {s s₁ : MfClassicListener} {key : BitVec 64} {nt nr : BitVec 32}
    {buff : BitBuffer} (h : s.NonceSent key nt s₁) (hbuff : ReaderAnswer key s.data.cuid nt nr buff)
    (hplain : 4 ≤ s.txPlainBuffer.capacityBytes)
    (hencrypted : 4 ≤ s.txEncryptedBuffer.capacityBytes) (random : BitVec 32) :
    ∃ s₂, mfClassicListenerAuthSecondPartHandler s₁ buff random = some (.processed, s₂) ∧
      MfClassicListener.AnswerSent key s.data.cuid nt nr s₂ := by
  obtain ⟨hsize, hnonce, hanswer⟩ := hbuff
  have hbytes : ¬ buff.getSizeBytes ≠ 8 := by simp [BitBuffer.getSizeBytes, hsize]
  have hnr : bytesToNumBe (buff.bytes 0 4) =
      nr ^^^ (crypto1Word (crypto1Word (crypto1Init key) (nt ^^^ s.data.cuid) false).2 nr
        false).1 := by
    rw [bytesToNumBe_bytes, BitVec.xor_comm, ← hnonce]
    exact wordOf_congr fun k _ => by rw [Nat.zero_add]
  have hcrypto : crypto1Word s₁.crypto (bytesToNumBe (buff.bytes 0 4)) true =
      crypto1Word (crypto1Word (crypto1Init key) (nt ^^^ s.data.cuid) false).2 nr false := by
    rw [hnr, h.crypto, crypto1Word_encrypted]
  have har : bytesToNumBe (buff.bytes 4 4) ^^^
      (crypto1Word (crypto1AfterNonces key s.data.cuid nt nr) 0 false).1 =
        crypto1PrngSuccessor s₁.authContext.nt 64 := by
    rw [bytesToNumBe_bytes, hanswer, BitVec.xor_comm, ← BitVec.xor_assoc, BitVec.xor_self,
      BitVec.zero_xor, h.nonce]
  obtain ⟨tx, htx, htxSize, -, -⟩ := copyBytes_numToBytesBe
    (Nat.le_trans hplain (Nat.le_of_eq h.plain.symm)) (crypto1PrngSuccessor s₁.authContext.nt 96)
  obtain ⟨c, out, hencrypt, hout, -, hc, -⟩ := encrypt_word (s :=
    { s₁ with
      cmdInProgress := false
      authContext := { s₁.authContext with
        nr := bytesToNumBe (buff.bytes 0 4), ar := bytesToNumBe (buff.bytes 4 4)
        at_ := crypto1PrngSuccessor s₁.authContext.nt 96 }
      crypto := (crypto1Word (crypto1AfterNonces key s.data.cuid nt nr) 0 false).2
      txPlainBuffer := tx }) [] htxSize (Nat.le_trans hencrypted (Nat.le_of_eq h.encrypted.symm))
  simp only [mfClassicListenerAuthSecondPartHandler, if_neg hbytes, hcrypto]
  rw [← crypto1AfterNonces, if_neg (not_not.mpr har), mfClassicListenerSendAnswer]
  simp only [htx, Option.bind_some, hencrypt, Option.map_some]
  exact ⟨_, rfl, hc, hout, rfl⟩

/-- The buffers of the listener have the capacity that they are allocated with. -/
structure MfClassicListener.Allocated (s : MfClassicListener) : Prop where
  plain     : s.txPlainBuffer.capacityBytes = 64
  encrypted : s.txEncryptedBuffer.capacityBytes = 64

/-- The buffers of the poller have the capacity that they are allocated with. -/
structure MfClassicPoller.Allocated (p : MfClassicPoller) : Prop where
  plain     : p.txPlainBuffer.capacityBytes = 64
  encrypted : p.txEncryptedBuffer.capacityBytes = 64

lemma getNt_eq {p : MfClassicPoller} (hp : p.Allocated) (blockNum : BitVec 8)
    (keyType : MfClassicKeyType) (isNested backdoorAuth : Bool) (exchange : Iso14443_3aExchange)
    {rx : BitBuffer} (hsize : rx.sizeBits = 32)
    (hrx : ∀ frame, exchange frame = (if isNested then .none else .wrongCrc, rx)) :
    ∃ p', mfClassicPollerGetNtCommon p blockNum keyType isNested backdoorAuth exchange =
        some (.none, rx.bytes 0 4, p') ∧
      p'.cuid = p.cuid ∧ p'.txEncryptedBuffer.capacityBytes = 64 := by
  have hbytes : ¬ rx.getSizeBytes ≠ 4 := by simp [BitBuffer.getSizeBytes, hsize]
  obtain ⟨tx, htx⟩ : ∃ tx, p.txPlainBuffer.copyBytes
      [mfClassicAuthType keyType backdoorAuth, blockNum] = some tx :=
    ⟨_, if_pos (by simp [hp.plain])⟩
  have htxSize : tx.sizeBits = 16 ∧ tx.capacityBytes = 64 := by
    rw [BitBuffer.copyBytes, if_pos (by simp [hp.plain])] at htx
    obtain rfl := Option.some.inj htx
    exact ⟨rfl, hp.plain⟩
  rw [mfClassicPollerGetNtCommon, htx, Option.bind_some]
  cases isNested with
  | false =>
    simp only [hrx, Bool.false_eq_true, if_false, Option.map_some, ne_eq, not_true, hbytes]
    exact ⟨_, rfl, rfl, hp.encrypted⟩
  | true =>
    have hcrc : ∃ framed, iso14443CrcAppend tx = some framed ∧ framed.getSize = 32 := by
      have htxBytes : tx.getSizeBytes = 2 := by simp [BitBuffer.getSizeBytes, htxSize.1]
      rw [iso14443CrcAppend, BitBuffer.appendBytes, if_pos (by simp [htxBytes, htxSize.2])]
      exact ⟨_, rfl, by simp [BitBuffer.getSize, htxSize.1]⟩
    obtain ⟨framed, hframed, hframedSize⟩ := hcrc
    obtain ⟨c, out, hencrypt, hsent⟩ := crypto1Encrypt_word p.crypto []
      p.txEncryptedBuffer hframedSize (by rw [hp.encrypted]; decide)
    simp only [if_true, hframed, Option.bind_some, hencrypt, Option.map_some, hrx, ne_eq,
      not_true, if_false, hbytes]
    exact ⟨_, rfl, rfl, hsent.capacity.trans hp.encrypted⟩

/-- The card sends its nonce, which has no checksum. -/
def mfClassicListenerNonce (s₁ : MfClassicListener) (isNested : Bool) : Iso14443_3aExchange :=
  fun _ => (if isNested then .none else .wrongCrc, s₁.txEncryptedBuffer)

/-- The card answers the second frame of an authentication, or is silent. -/
def mfClassicListenerAnswer (s₁ : MfClassicListener) (random : BitVec 32) : Iso14443_3aExchange :=
  fun frame =>
    match mfClassicListenerAuthSecondPartHandler s₁ frame random with
    | some (.processed, s₂) => (.none, s₂.txEncryptedBuffer)
    | _ => (.timeout, .alloc 64)

/-- The listener and the poller with the key of the sector come through an authentication, a first
one or one inside a session, with the same register. -/
theorem mfClassicAuth_agrees (s : MfClassicListener) (p : MfClassicPoller)
    (keyType : MfClassicKeyType) (command : BitBuffer) (nt random : BitVec 32)
    (nr : List (BitVec 8)) (data : Option MfClassicAuthContext) (backdoorAuth : Bool)
    (hblock : (command.getByte 1).toNat < s.totalBlockNum) (hcuid : p.cuid = s.data.cuid)
    (hs : s.Allocated) (hp : p.Allocated) :
    ∃ s₁ data' p' s₂,
      mfClassicListenerAuthFirstPartHandler keyType s command nt = some (.processed, s₁) ∧
      mfClassicPollerAuthCommon p (command.getByte 1)
          (s.data.getKey (mfClassicGetSectorByBlock (command.getByte 1)) keyType) keyType data
          (s.commState = .encrypted) backdoorAuth false nr
          (mfClassicListenerNonce s₁ (s.commState = .encrypted))
          (mfClassicListenerAnswer s₁ random) = some (.none, data', p') ∧
      mfClassicListenerAuthSecondPartHandler s₁ p'.txEncryptedBuffer random =
        some (.processed, s₂) ∧
      p'.authState = .passed ∧ s₂.state = .authComplete ∧ p'.crypto = s₂.crypto := by
  have hplain : 4 ≤ s.txPlainBuffer.capacityBytes := by rw [hs.plain]; decide
  have hencrypted : 4 ≤ s.txEncryptedBuffer.capacityBytes := by rw [hs.encrypted]; decide
  obtain ⟨s₁, hfirst, hnonce⟩ := authFirstPart_eq s keyType command nt hblock hplain hencrypted
  generalize hkey :
    s.data.getKey (mfClassicGetSectorByBlock (command.getByte 1)) keyType = key at hnonce ⊢
  generalize hnested : decide (s.commState = .encrypted) = isNested at *
  obtain ⟨p₁, hgetNt, hp₁cuid, hp₁⟩ := getNt_eq hp (command.getByte 1) keyType isNested
    backdoorAuth (mfClassicListenerNonce s₁ isNested) hnonce.size fun _ => rfl
  have hsent : bytesToNumBe (s₁.txEncryptedBuffer.bytes 0 4) =
      crypto1SentNonce key s.data.cuid nt isNested := by
    rw [← hnested, ← hnonce.sent, bytesToNumBe_bytes]
    exact wordOf_congr fun k _ => by rw [Nat.zero_add]
  obtain ⟨nr', tx, hreader, hanswer⟩ := encryptReaderNonce_eq nr p₁.txEncryptedBuffer hsent
    (by rw [hp₁]; decide)
  obtain ⟨s₂, hsecond, hdone⟩ := authSecondPart_eq hnonce hanswer hplain hencrypted random
  have hexchange : mfClassicListenerAnswer s₁ random tx = (.none, s₂.txEncryptedBuffer) := by
    rw [mfClassicListenerAnswer, hsecond]
  have hbytes : s₂.txEncryptedBuffer.getSizeBytes = 4 := by
    simp [BitBuffer.getSizeBytes, hdone.size]
  refine ⟨s₁, ?_⟩
  rw [mfClassicPollerAuthCommon, hgetNt]
  simp only [Option.bind_some, hp₁cuid, hcuid, hreader, hexchange, ne_eq, not_true, if_false,
    hbytes, Bool.false_eq_true]
  cases data with
  | none =>
    exact ⟨_, _, s₂, hfirst, rfl, hsecond, rfl, hdone.state, hdone.crypto.symm⟩
  | some d =>
    have hwrite : s₂.txEncryptedBuffer.writeBytes (numToBytesBe d.at_) =
        some (s₂.txEncryptedBuffer.bytes 0 4) := by
      rw [BitBuffer.writeBytes, hbytes]
      rfl
    simp only [Option.map_some, hwrite]
    exact ⟨_, _, s₂, hfirst, rfl, hsecond, rfl, hdone.state, hdone.crypto.symm⟩

/-- A first authentication with a key of six bytes `FF`. -/
theorem mfClassicAuth_agrees_blank :
    ∃ (s₁ s₂ : MfClassicListener) (p' : MfClassicPoller),
      mfClassicListenerAuthSecondPartHandler s₁ p'.txEncryptedBuffer 0 = some (.processed, s₂) ∧
        p'.crypto = s₂.crypto := by
  obtain ⟨s₁, -, p', s₂, -, -, hsecond, -, -, hcrypto⟩ := mfClassicAuth_agrees
    (mfClassicListenerAlloc ⟨.type1k, 0x01020304, fun _ _ => 0xFF⟩)
    (mfClassicPollerAlloc 0x01020304) .a (.ofBytes [0x60, 4]) 0x11223344 0 [1, 2, 3, 4] none false
    (by decide) rfl ⟨rfl, rfl⟩ ⟨rfl, rfl⟩
  exact ⟨s₁, s₂, p', hsecond, hcrypto⟩

end FlipperZero
