import FlipperZero.Foundation.Loop
import Mathlib.Data.Nat.Find

/-!
# The Alutech AT-4N cipher

`alutech_at_4n.c`: two words of 32 bits are mixed in rounds. Encryption counts up from zero by the
word 6 of the table until it meets the word 0, decryption counts from the word 0 by the word 3 until
it meets zero.
-/

namespace FlipperZero

open Foundation

/-- What a round adds to one word from the other one. -/
def alutechMix (a b x i : BitVec 32) : BitVec 32 := (a + x <<< 4) ^^^ ((b + x >>> 5) ^^^ (i + x))

/-- The words of the data: its bytes in order, the first one the highest. -/
def alutechWords (data : BitVec 64) : BitVec 32 × BitVec 32 :=
  let p (i : Nat) : BitVec 8 := data.extractLsb' (8 * i) 8
  (p 0 ++ p 1 ++ p 2 ++ p 3, p 4 ++ p 5 ++ p 6 ++ p 7)

def alutechData (words : BitVec 32 × BitVec 32) : BitVec 64 :=
  let p (word : BitVec 32) (i : Nat) : BitVec 8 := word.extractLsb' (24 - 8 * i) 8
  p words.2 3 ++ p words.2 2 ++ p words.2 1 ++ p words.2 0 ++
    p words.1 3 ++ p words.1 2 ++ p words.1 1 ++ p words.1 0

variable (magicData : Nat → BitVec 32)

/-- The mixing of a round of decryption. -/
def alutechDecryptRound (i : BitVec 32) (words : BitVec 32 × BitVec 32) : BitVec 32 × BitVec 32 :=
  let data2 := words.2 - alutechMix (magicData 1) (magicData 2) words.1 i
  (words.1 - alutechMix (magicData 4) (magicData 5) data2 i, data2)

/-- The mixing of a round of encryption. -/
def alutechEncryptRound (i : BitVec 32) (words : BitVec 32 × BitVec 32) : BitVec 32 × BitVec 32 :=
  let data2 := words.1 + alutechMix (magicData 4) (magicData 5) words.2 i
  (data2, words.2 + alutechMix (magicData 1) (magicData 2) data2 i)

/-- The body of the loop of `subghz_protocol_alutech_at_4n_decrypt`. -/
def alutechDecryptBody (s : BitVec 32 × BitVec 32 × BitVec 32) :
    Round (BitVec 32 × BitVec 32 × BitVec 32) (BitVec 32 × BitVec 32) :=
  let words := alutechDecryptRound magicData s.1 s.2
  let i := s.1 + magicData 3
  if i ≠ 0 then .again (i, words) else .leave words

/-- The body of the loop of `subghz_protocol_alutech_at_4n_encrypt`. -/
def alutechEncryptBody (s : BitVec 32 × BitVec 32 × BitVec 32) :
    Round (BitVec 32 × BitVec 32 × BitVec 32) (BitVec 32 × BitVec 32) :=
  let data1 := s.1 + magicData 6
  let words := alutechEncryptRound magicData data1 s.2
  if data1 ≠ magicData 0 then .again (data1, words) else .leave words

/-- `subghz_protocol_alutech_at_4n_decrypt`, if it takes at most that many rounds. -/
def subghzProtocolAlutechAt4nDecrypt (rounds : Nat) (data : BitVec 64) : Option (BitVec 64) :=
  (loop (alutechDecryptBody magicData) rounds (magicData 0, alutechWords data)).map alutechData

/-- `subghz_protocol_alutech_at_4n_encrypt`, if it takes at most that many rounds. -/
def subghzProtocolAlutechAt4nEncrypt (rounds : Nat) (data : BitVec 64) : Option (BitVec 64) :=
  (loop (alutechEncryptBody magicData) rounds (0, alutechWords data)).map alutechData

/-! ### Rounds -/

lemma alutechDecryptRound_encryptRound (i : BitVec 32) (words : BitVec 32 × BitVec 32) :
    alutechDecryptRound magicData i (alutechEncryptRound magicData i words) = words := by
  simp only [alutechDecryptRound, alutechEncryptRound, BitVec.add_sub_cancel]

def alutechEncryptRounds : Nat → BitVec 32 × BitVec 32 → BitVec 32 × BitVec 32
  | 0, words     => words
  | n + 1, words =>
    alutechEncryptRound magicData (BitVec.ofNat 32 (n + 1) * magicData 6)
      (alutechEncryptRounds n words)

lemma ofNat_succ_mul (n : Nat) (x : BitVec 32) :
    BitVec.ofNat 32 (n + 1) * x = BitVec.ofNat 32 n * x + x := by
  rw [BitVec.ofNat_add, BitVec.add_mul]
  congr 1
  exact BitVec.one_mul x

/-- The number of rounds: the first multiple of the step that is the start value. -/
structure AlutechRounds (k : Nat) : Prop where
  pos : 0 < k
  start : BitVec.ofNat 32 k * magicData 6 = magicData 0
  first : ∀ j, 0 < j → j < k → BitVec.ofNat 32 j * magicData 6 ≠ magicData 0

variable {magicData} {k : Nat}

lemma AlutechRounds.ne_zero (h : AlutechRounds magicData k) {j : Nat} (hpos : 0 < j) (hlt : j < k) :
    BitVec.ofNat 32 j * magicData 6 ≠ 0 := by
  intro hzero
  refine h.first (k - j) (by omega) (by omega) ?_
  rw [← h.start]
  have hsum : BitVec.ofNat 32 k = BitVec.ofNat 32 j + BitVec.ofNat 32 (k - j) := by
    rw [← BitVec.ofNat_add, Nat.add_sub_cancel' (Nat.le_of_lt hlt)]
  have hzero' : (0 : BitVec 32) + BitVec.ofNat 32 (k - j) * magicData 6 =
      BitVec.ofNat 32 (k - j) * magicData 6 := BitVec.zero_add _
  rw [hsum, BitVec.add_mul, hzero, hzero']

lemma AlutechRounds.start_iff (h : AlutechRounds magicData k) {j : Nat} (hpos : 0 < j)
    (hle : j ≤ k) : BitVec.ofNat 32 j * magicData 6 = magicData 0 ↔ j = k := by
  constructor
  · intro heq
    by_contra hne
    exact h.first j hpos (Nat.lt_of_le_of_ne hle hne) heq
  · rintro rfl
    exact h.start

lemma AlutechRounds.encryptLoop (h : AlutechRounds magicData k)
    (words : BitVec 32 × BitVec 32) (m : Nat) : ∀ j, j + (m + 1) = k →
      loop (alutechEncryptBody magicData) (m + 1)
          (BitVec.ofNat 32 j * magicData 6, alutechEncryptRounds magicData j words) =
        some (alutechEncryptRounds magicData k words) := by
  induction m with
  | zero =>
    intro j hj
    refine loop_leave ?_
    rw [alutechEncryptBody, ← ofNat_succ_mul,
      if_neg (not_not_intro ((h.start_iff (Nat.succ_pos j) (Nat.le_of_eq hj)).mpr hj)), ← hj]
    rfl
  | succ m ih =>
    intro j hj
    have hne : BitVec.ofNat 32 (j + 1) * magicData 6 ≠ magicData 0 := fun heq =>
      absurd ((h.start_iff (Nat.succ_pos j) (by omega)).mp heq) (by omega)
    have hagain : alutechEncryptBody magicData
        (BitVec.ofNat 32 j * magicData 6, alutechEncryptRounds magicData j words) =
          .again (BitVec.ofNat 32 (j + 1) * magicData 6,
            alutechEncryptRounds magicData (j + 1) words) := by
      rw [alutechEncryptBody, ← ofNat_succ_mul, if_pos hne]
      rfl
    rw [loop_again hagain]
    exact ih (j + 1) (by omega)

lemma AlutechRounds.decryptLoop (h : AlutechRounds magicData k)
    (hstep : magicData 3 = -magicData 6) (words : BitVec 32 × BitVec 32) (m : Nat) : m < k →
      loop (alutechDecryptBody magicData) (m + 1)
          (BitVec.ofNat 32 (m + 1) * magicData 6, alutechEncryptRounds magicData (m + 1) words) =
        some words := by
  have hback (j : Nat) : BitVec.ofNat 32 (j + 1) * magicData 6 + magicData 3 =
      BitVec.ofNat 32 j * magicData 6 := by
    rw [hstep, ofNat_succ_mul, ← BitVec.sub_eq_add_neg, BitVec.add_sub_cancel]
  induction m with
  | zero =>
    intro _
    have hzero : BitVec.ofNat 32 0 * magicData 6 = 0 := BitVec.zero_mul
    refine loop_leave ?_
    rw [alutechDecryptBody, hback, hzero, if_neg (not_not_intro rfl), alutechEncryptRounds,
      alutechDecryptRound_encryptRound]
    rfl
  | succ m ih =>
    intro hm
    have hagain : alutechDecryptBody magicData (BitVec.ofNat 32 (m + 2) * magicData 6,
        alutechEncryptRounds magicData (m + 2) words) =
          .again (BitVec.ofNat 32 (m + 1) * magicData 6,
            alutechEncryptRounds magicData (m + 1) words) := by
      rw [alutechDecryptBody, hback, if_pos (h.ne_zero (Nat.succ_pos m) hm),
        alutechEncryptRounds, alutechDecryptRound_encryptRound]
    rw [loop_again hagain]
    exact ih (by omega)

/-! ### Words and data -/

lemma alutechWords_data (words : BitVec 32 × BitVec 32) :
    alutechWords (alutechData words) = words := by
  have hjoin (w : BitVec 32) : w.extractLsb' 24 8 ++ w.extractLsb' 16 8 ++ w.extractLsb' 8 8 ++
      w.extractLsb' 0 8 = w := by
    rw [BitVec.extractLsb'_append_extractLsb'_eq_extractLsb' (by decide),
      BitVec.extractLsb'_append_extractLsb'_eq_extractLsb' (by decide),
      BitVec.extractLsb'_append_extractLsb'_eq_extractLsb' (by decide), BitVec.extractLsb'_eq_self]
  refine Prod.ext ?_ ?_
  all_goals
    simp (disch := decide) only [alutechData, alutechWords, Nat.reduceMul, Nat.reduceSub,
      BitVec.extractLsb'_append_eq_of_add_le, BitVec.extractLsb'_append_eq_of_le,
      BitVec.extractLsb'_eq_self]
    exact hjoin _

lemma alutechData_words (data : BitVec 64) : alutechData (alutechWords data) = data := by
  simp (disch := decide) only [alutechData, alutechWords, Nat.reduceMul, Nat.reduceSub,
    BitVec.extractLsb'_append_eq_of_add_le, BitVec.extractLsb'_append_eq_of_le,
    BitVec.extractLsb'_eq_self]
  rw [BitVec.extractLsb'_append_extractLsb'_eq_extractLsb' (by decide),
    BitVec.extractLsb'_append_extractLsb'_eq_extractLsb' (by decide),
    BitVec.extractLsb'_append_extractLsb'_eq_extractLsb' (by decide),
    BitVec.extractLsb'_append_extractLsb'_eq_extractLsb' (by decide),
    BitVec.extractLsb'_append_extractLsb'_eq_extractLsb' (by decide),
    BitVec.extractLsb'_append_extractLsb'_eq_extractLsb' (by decide),
    BitVec.extractLsb'_append_extractLsb'_eq_extractLsb' (by decide), BitVec.extractLsb'_eq_self]

/-- If the step of decryption is the negated step of encryption and the start value is a multiple of
it, both loops come to an end, and decryption gives back what was encrypted. -/
theorem alutechAt4n_decrypt_encrypt (magicData : Nat → BitVec 32) (n : Nat) (hn : 0 < n)
    (hstart : magicData 0 = BitVec.ofNat 32 n * magicData 6)
    (hstep : magicData 3 = -magicData 6) :
    ∃ rounds, ∀ data, ∃ encrypted,
      subghzProtocolAlutechAt4nEncrypt magicData rounds data = some encrypted ∧
        subghzProtocolAlutechAt4nDecrypt magicData rounds encrypted = some data := by
  classical
  have hexists : ∃ j, 0 < j ∧ BitVec.ofNat 32 j * magicData 6 = magicData 0 := ⟨n, hn, hstart.symm⟩
  have hk := Nat.find_spec hexists
  have h : AlutechRounds magicData (Nat.find hexists) :=
    ⟨hk.1, hk.2, fun j hpos hlt heq => Nat.find_min hexists hlt ⟨hpos, heq⟩⟩
  obtain ⟨m, hm⟩ : ∃ m, Nat.find hexists = m + 1 := ⟨Nat.find hexists - 1, by omega⟩
  rw [hm] at h
  refine ⟨m + 1, fun data =>
    ⟨alutechData (alutechEncryptRounds magicData (m + 1) (alutechWords data)), ?_, ?_⟩⟩
  · have hloop := h.encryptLoop (alutechWords data) m 0 (Nat.zero_add _)
    have hzero : BitVec.ofNat 32 0 * magicData 6 = 0 := BitVec.zero_mul
    rw [hzero] at hloop
    rw [subghzProtocolAlutechAt4nEncrypt]
    exact congrArg (Option.map alutechData) hloop
  · have hloop := h.decryptLoop hstep (alutechWords data) m (Nat.lt_succ_self m)
    rw [h.start] at hloop
    rw [subghzProtocolAlutechAt4nDecrypt, alutechWords_data, hloop, Option.map_some,
      alutechData_words]

/-- The table of the step `0x9E3779B9`, with 32 rounds. -/
theorem alutechAt4n_decrypt_encrypt_sample :
    let magicData : Nat → BitVec 32 := fun i =>
      ([0xC6EF3720, 1, 2, 0x61C88647, 3, 4, 0x9E3779B9] : List (BitVec 32)).getD i 0
    ∃ rounds, ∀ data, ∃ encrypted,
      subghzProtocolAlutechAt4nEncrypt magicData rounds data = some encrypted ∧
        subghzProtocolAlutechAt4nDecrypt magicData rounds encrypted = some data :=
  alutechAt4n_decrypt_encrypt _ 32 (by decide) (by decide) (by decide)

end FlipperZero
