import Mathlib.Logic.Function.Basic
import FlipperZero.Foundation.BitString

/-!
# The KeeLoq cipher

A register of 32 bits is shifted right 528 times, with the highest bit taken from a nonlinear
function of five bits, two more bits and a bit of the key. Decryption shifts left, with every tap
one place lower and the bits of the key in the reverse order.
-/

namespace FlipperZero

def keeloqNlf : BitVec 32 := 0x3A5C742E

/-- `g5`: the number that five bits of a word make. -/
def g5 (x : BitVec 32) (a b c d e : Nat) : Nat :=
  (x.getLsbD a).toNat + (x.getLsbD b).toNat * 2 + (x.getLsbD c).toNat * 4 +
    (x.getLsbD d).toNat * 8 + (x.getLsbD e).toNat * 16

/-- The bit that round `r` of the encryption puts in. -/
def keeloqEncryptBit (key : BitVec 64) (x : BitVec 32) (r : Nat) : Bool :=
  x.getLsbD 0 ^^ x.getLsbD 16 ^^ key.getLsbD (r &&& 63) ^^ keeloqNlf.getLsbD (g5 x 1 9 20 26 31)

/-- The bit that round `r` of the decryption puts in. The index of the key is a `uint32_t`. -/
def keeloqDecryptBit (key : BitVec 64) (x : BitVec 32) (r : Nat) : Bool :=
  x.getLsbD 31 ^^ x.getLsbD 15 ^^ key.getLsbD ((15#32 - BitVec.ofNat 32 r) &&& 63#32).toNat ^^
    keeloqNlf.getLsbD (g5 x 0 8 19 25 30)

/-- A round of `subghz_protocol_keeloq_common_encrypt`. -/
def keeloqEncryptRound (key : BitVec 64) (x : BitVec 32) (r : Nat) : BitVec 32 :=
  (x >>> 1) ^^^ ((BitVec.ofBool (keeloqEncryptBit key x r)).setWidth 32 <<< 31)

/-- A round of `subghz_protocol_keeloq_common_decrypt`. -/
def keeloqDecryptRound (key : BitVec 64) (x : BitVec 32) (r : Nat) : BitVec 32 :=
  (x <<< 1) ^^^ (BitVec.ofBool (keeloqDecryptBit key x r)).setWidth 32

def subghzProtocolKeeloqCommonEncrypt (data : BitVec 32) (key : BitVec 64) : BitVec 32 :=
  (List.range 528).foldl (keeloqEncryptRound key) data

def subghzProtocolKeeloqCommonDecrypt (data : BitVec 32) (key : BitVec 64) : BitVec 32 :=
  (List.range 528).foldl (keeloqDecryptRound key) data

example : subghzProtocolKeeloqCommonEncrypt 0xF741E2DB 0x5CEC6701B79FD949 = 0xE44F4CDF := by
  decide +kernel

/-! ### A round undone -/

section
variable (key : BitVec 64) (x : BitVec 32) (r : Nat)

lemma getLsbD_keeloqEncryptRound {i : Nat} (hi : i < 32) :
    (keeloqEncryptRound key x r).getLsbD i =
      if i = 31 then keeloqEncryptBit key x r else x.getLsbD (i + 1) := by
  have hshift : (x >>> 1).getLsbD i = x.getLsbD (i + 1) := by
    rw [BitVec.getLsbD_ushiftRight, Nat.add_comm]
  rw [keeloqEncryptRound, BitVec.getLsbD_xor, hshift, BitVec.getLsbD_shiftLeft,
    BitVec.getLsbD_setWidth, BitVec.getLsbD_ofBool]
  split_ifs with htop
  · subst htop
    simp [BitVec.getLsbD_of_ge]
  · have hlow : i < 31 := by omega
    simp [hlow]

lemma getLsbD_keeloqDecryptRound {i : Nat} (hi : i < 32) :
    (keeloqDecryptRound key x r).getLsbD i =
      if i = 0 then keeloqDecryptBit key x r else x.getLsbD (i - 1) := by
  rw [keeloqDecryptRound, BitVec.getLsbD_xor, BitVec.getLsbD_shiftLeft, BitVec.getLsbD_setWidth,
    BitVec.getLsbD_ofBool]
  cases i with
  | zero => simp
  | succ i => simp [hi]

lemma xor_taps (a b c d : Bool) : (a ^^ b ^^ c ^^ d ^^ b ^^ c ^^ d) = a := by
  revert a b c d
  decide

lemma keeloqKeyIndex (hr : r < 528) :
    ((15#32 - BitVec.ofNat 32 (527 - r)) &&& 63#32).toNat = r &&& 63 := by
  have hmask (m : Nat) : m &&& 63 = m % 64 := Nat.and_two_pow_sub_one_eq_mod m 6
  rw [BitVec.toNat_and, BitVec.toNat_sub, BitVec.toNat_ofNat, BitVec.toNat_ofNat,
    BitVec.toNat_ofNat, Nat.mod_eq_of_lt (by decide : 63 < 2 ^ 32), hmask, hmask]
  omega

lemma keeloqDecryptBit_encryptRound (hr : r < 528) :
    keeloqDecryptBit key (keeloqEncryptRound key x r) (527 - r) = x.getLsbD 0 := by
  have htap {i : Nat} (hi : i < 31) :
      (keeloqEncryptRound key x r).getLsbD i = x.getLsbD (i + 1) := by
    rw [getLsbD_keeloqEncryptRound key x r (Nat.lt_succ_of_lt hi), if_neg (Nat.ne_of_lt hi)]
  have htop : (keeloqEncryptRound key x r).getLsbD 31 = keeloqEncryptBit key x r :=
    getLsbD_keeloqEncryptRound key x r (by decide)
  have hnlf : g5 (keeloqEncryptRound key x r) 0 8 19 25 30 = g5 x 1 9 20 26 31 := by
    simp only [g5, htap (by decide : 0 < 31), htap (by decide : 8 < 31), htap (by decide : 19 < 31),
      htap (by decide : 25 < 31), htap (by decide : 30 < 31)]
  rw [keeloqDecryptBit, htop, htap (by decide), hnlf, keeloqKeyIndex r hr, keeloqEncryptBit, xor_taps]

lemma keeloqEncryptBit_decryptRound (hr : r < 528) :
    keeloqEncryptBit key (keeloqDecryptRound key x (527 - r)) r = x.getLsbD 31 := by
  have htap {i : Nat} (hi : i < 31) :
      (keeloqDecryptRound key x (527 - r)).getLsbD (i + 1) = x.getLsbD i := by
    rw [getLsbD_keeloqDecryptRound key x _ (Nat.succ_lt_succ hi), if_neg (Nat.succ_ne_zero i),
      Nat.succ_sub_one]
  have hlow : (keeloqDecryptRound key x (527 - r)).getLsbD 0 = keeloqDecryptBit key x (527 - r) :=
    getLsbD_keeloqDecryptRound key x _ (by decide)
  have hnlf : g5 (keeloqDecryptRound key x (527 - r)) 1 9 20 26 31 = g5 x 0 8 19 25 30 := by
    simp only [g5, htap (by decide : 0 < 31), htap (by decide : 8 < 31), htap (by decide : 19 < 31),
      htap (by decide : 25 < 31), htap (by decide : 30 < 31)]
  rw [keeloqEncryptBit, hlow, htap (by decide : 15 < 31), hnlf, keeloqDecryptBit,
    keeloqKeyIndex r hr, xor_taps]

lemma keeloqDecryptRound_encryptRound (hr : r < 528) :
    keeloqDecryptRound key (keeloqEncryptRound key x r) (527 - r) = x := by
  apply BitVec.eq_of_getLsbD_eq
  intro i hi
  rw [getLsbD_keeloqDecryptRound _ _ _ hi]
  split_ifs with hzero
  · rw [hzero, keeloqDecryptBit_encryptRound key x r hr]
  · rw [getLsbD_keeloqEncryptRound _ _ _ (by omega), if_neg (by omega), Nat.sub_add_cancel (by omega)]

lemma keeloqEncryptRound_decryptRound (hr : r < 528) :
    keeloqEncryptRound key (keeloqDecryptRound key x (527 - r)) r = x := by
  apply BitVec.eq_of_getLsbD_eq
  intro i hi
  rw [getLsbD_keeloqEncryptRound _ _ _ hi]
  split_ifs with htop
  · rw [htop, keeloqEncryptBit_decryptRound key x r hr]
  · rw [getLsbD_keeloqDecryptRound _ _ _ (by omega), if_neg (Nat.succ_ne_zero i),
      Nat.add_sub_cancel]

end

/-! ### All rounds -/

lemma foldl_range_undone {α : Type*} {n : Nat} {f g : α → Nat → α}
    (h : ∀ x, ∀ r < n, g (f x r) (n - 1 - r) = x) (x : α) :
    (List.range n).foldl g ((List.range n).foldl f x) = x := by
  induction n generalizing g with
  | zero => rfl
  | succ n ih =>
    have hlast (y : α) : g (f y n) 0 = y := by
      have hround := h y n (Nat.lt_succ_self n)
      rwa [Nat.add_sub_cancel, Nat.sub_self] at hround
    have hrest : ∀ y, ∀ r < n, g (f y r) (n - 1 - r + 1) = y := by
      intro y r hr
      have hround := h y r (Nat.lt_succ_of_lt hr)
      rwa [show n + 1 - 1 - r = n - 1 - r + 1 by omega] at hround
    have hundone := ih (g := fun y r => g y (r + 1)) hrest
    rw [List.range_succ_eq_map, List.foldl_cons, List.foldl_map, ← List.range_succ_eq_map,
      List.range_succ, List.foldl_append, List.foldl_cons, List.foldl_nil, hlast]
    exact hundone

/-- Decryption undoes encryption and encryption undoes decryption, so that a key encrypts the words
one to one. -/
theorem keeloqCommon_inverse (key : BitVec 64) :
    (∀ x, subghzProtocolKeeloqCommonDecrypt (subghzProtocolKeeloqCommonEncrypt x key) key = x) ∧
    (∀ x, subghzProtocolKeeloqCommonEncrypt (subghzProtocolKeeloqCommonDecrypt x key) key = x) ∧
    Function.Bijective fun x => subghzProtocolKeeloqCommonEncrypt x key := by
  have hdecrypt : ∀ x,
      subghzProtocolKeeloqCommonDecrypt (subghzProtocolKeeloqCommonEncrypt x key) key = x :=
    foldl_range_undone fun x r hr => keeloqDecryptRound_encryptRound key x r hr
  have hencrypt : ∀ x,
      subghzProtocolKeeloqCommonEncrypt (subghzProtocolKeeloqCommonDecrypt x key) key = x := by
    apply foldl_range_undone
    intro x r hr
    have hround := keeloqEncryptRound_decryptRound key x (527 - r) (by omega)
    rwa [show 527 - (527 - r) = r by omega] at hround
  refine ⟨hdecrypt, hencrypt, ?_, fun y => ⟨_, hencrypt y⟩⟩
  intro x y (h : subghzProtocolKeeloqCommonEncrypt x key = subghzProtocolKeeloqCommonEncrypt y key)
  rw [← hdecrypt x, h, hdecrypt]

end FlipperZero
