import Mathlib.Data.BitVec
import Mathlib.Tactic.FinCases
import Mathlib.Tactic.IntervalCases
import Mathlib.Data.Fin.VecNotation

/-!
# Byte scramblers

The ciphers of `nice_flor_s.c` and `came_atomo.c` change the bytes of a frame in place. A half of a
round of Nice FloR-S takes its key from bits of the first byte that it leaves as they are, so it is
its own inverse; CAME Atomo turns over bits of the bytes behind the first one, by a sequence that
grows out of the first byte.
-/

namespace FlipperZero

/-! ### Nice FloR-S -/

/-- The bytes of the data, the lowest first, with what is above them. -/
structure NiceFlorSBytes where
  p0 : BitVec 8
  p1 : BitVec 8
  p2 : BitVec 8
  p3 : BitVec 8
  p4 : BitVec 8
  p5 : BitVec 8
  high : BitVec 16
  deriving DecidableEq

/-- The bytes at the address of the data. -/
def niceFlorSBytes (data : BitVec 64) : NiceFlorSBytes :=
  let p (i : Nat) : BitVec 8 := data.extractLsb' (8 * i) 8
  ⟨p 0, p 1, p 2, p 3, p 4, p 5, data.extractLsb' 48 16⟩

namespace NiceFlorSBytes

def data (p : NiceFlorSBytes) : BitVec 64 := p.high ++ p.p5 ++ p.p4 ++ p.p3 ++ p.p2 ++ p.p1 ++ p.p0

/-- `subghz_protocol_decoder_nice_flor_s_magic_xor`. -/
def magicXor (p : NiceFlorSBytes) (k : BitVec 8) : NiceFlorSBytes :=
  { p with
    p1 := p.p1 ^^^ k
    p2 := p.p2 ^^^ k
    p3 := p.p3 ^^^ k
    p4 := p.p4 ^^^ k
    p5 := p.p5 ^^^ k }

variable (byteInFile : BitVec 8 → BitVec 8)

/-- The half of a round whose address is the low bits of the first byte. -/
def lowHalf (p : NiceFlorSBytes) : NiceFlorSBytes :=
  let k := byteInFile (p.p0 &&& 0x1f)
  let p := p.magicXor k
  { p with p5 := p.p5 &&& 0x0f, p0 := p.p0 ^^^ (k &&& 0xe0) }

/-- The half of a round whose address is the high bits of the first byte. -/
def highHalf (p : NiceFlorSBytes) : NiceFlorSBytes :=
  let k := byteInFile (p.p0 >>> 3) + 0x25
  let p := p.magicXor k
  { p with p5 := p.p5 &&& 0x0f, p0 := p.p0 ^^^ (k &&& 0x7) }

/-- The first two bytes change places. -/
def swap (p : NiceFlorSBytes) : NiceFlorSBytes := { p with p0 := p.p1, p1 := p.p0 }

/-- The end of `subghz_protocol_nice_flor_s_encrypt`. -/
def permute (p : NiceFlorSBytes) : NiceFlorSBytes :=
  { p with
    p5 := ~~~p.p5 &&& 0x0f
    p4 := ~~~p.p0
    p0 := ~~~p.p2
    p2 := ~~~p.p4
    p3 := ~~~p.p1
    p1 := ~~~p.p3 }

/-- The start of `subghz_protocol_nice_flor_s_decrypt`. -/
def restore (p : NiceFlorSBytes) : NiceFlorSBytes :=
  { p with
    p5 := ~~~p.p5
    p4 := ~~~p.p2
    p2 := ~~~p.p0
    p0 := ~~~p.p4
    p3 := ~~~p.p1
    p1 := ~~~p.p3 }

end NiceFlorSBytes

def subghzProtocolNiceFlorSEncrypt (byteInFile : BitVec 8 → BitVec 8) (data : BitVec 64) :
    BitVec 64 :=
  let p := niceFlorSBytes data
  let p := ((p.lowHalf byteInFile).highHalf byteInFile).swap
  let p := (p.lowHalf byteInFile).highHalf byteInFile
  p.permute.data

def subghzProtocolNiceFlorSDecrypt (byteInFile : BitVec 8 → BitVec 8) (data : BitVec 64) :
    BitVec 64 :=
  let p := (niceFlorSBytes data).restore
  let p := ((p.highHalf byteInFile).lowHalf byteInFile).swap
  ((p.highHalf byteInFile).lowHalf byteInFile).data

namespace NiceFlorSBytes

variable (byteInFile : BitVec 8 → BitVec 8) (p : NiceFlorSBytes)

lemma bytes_data : niceFlorSBytes p.data = p := by
  simp (disch := decide) only [niceFlorSBytes, data, Nat.reduceMul, Nat.reduceSub,
    BitVec.extractLsb'_append_eq_of_add_le, BitVec.extractLsb'_append_eq_of_le,
    BitVec.extractLsb'_eq_self]

lemma data_bytes (data : BitVec 64) : (niceFlorSBytes data).data = data := by
  simp only [niceFlorSBytes, NiceFlorSBytes.data, Nat.reduceMul]
  rw [BitVec.extractLsb'_append_extractLsb'_eq_extractLsb' (by decide),
    BitVec.extractLsb'_append_extractLsb'_eq_extractLsb' (by decide),
    BitVec.extractLsb'_append_extractLsb'_eq_extractLsb' (by decide),
    BitVec.extractLsb'_append_extractLsb'_eq_extractLsb' (by decide),
    BitVec.extractLsb'_append_extractLsb'_eq_extractLsb' (by decide),
    BitVec.extractLsb'_append_extractLsb'_eq_extractLsb' (by decide), BitVec.extractLsb'_eq_self]

lemma xor_and_xor_and {x k m : BitVec 8} (h : x &&& m = x) : (((x ^^^ k) &&& m) ^^^ k) &&& m = x := by
  refine BitVec.eq_of_getLsbD_eq fun i _ => ?_
  have hi := congrArg (fun b => BitVec.getLsbD b i) h
  simp only [BitVec.getLsbD_and, BitVec.getLsbD_xor] at hi ⊢
  cases hx : x.getLsbD i <;> cases hk : k.getLsbD i <;> cases hm : m.getLsbD i <;> simp_all

lemma xor_and_eq {x k m : BitVec 8} (h : k &&& m = 0) : (x ^^^ k) &&& m = x &&& m := by
  refine BitVec.eq_of_getLsbD_eq fun i _ => ?_
  have hi := congrArg (fun b => BitVec.getLsbD b i) h
  simp only [BitVec.getLsbD_and, BitVec.getLsbD_xor] at hi ⊢
  cases hk : k.getLsbD i <;> cases hm : m.getLsbD i <;> simp_all

lemma xor_and_ushiftRight (x k : BitVec 8) : (x ^^^ (k &&& 0x7)) >>> 3 = x >>> 3 := by
  have hzero : (0x7 : BitVec 8) >>> 3 = 0#8 := by decide
  rw [BitVec.ushiftRight_xor_distrib, BitVec.ushiftRight_and_distrib, hzero, BitVec.and_zero,
    BitVec.xor_zero]

lemma xor_xor_self (x k : BitVec 8) : x ^^^ k ^^^ k = x := by
  rw [BitVec.xor_assoc, BitVec.xor_self, BitVec.xor_zero]

variable {p}

lemma lowHalf_lowHalf (h : p.p5 &&& 0x0f = p.p5) :
    (p.lowHalf byteInFile).lowHalf byteInFile = p := by
  have haddress : (p.p0 ^^^ (byteInFile (p.p0 &&& 0x1f) &&& 0xe0)) &&& 0x1f = p.p0 &&& 0x1f := by
    have hmask : (0xe0 : BitVec 8) &&& 0x1f = 0 := by decide
    refine xor_and_eq ?_
    rw [BitVec.and_assoc, hmask]
    exact BitVec.and_zero
  simp only [lowHalf, magicXor, haddress, xor_xor_self, xor_and_xor_and h]

lemma highHalf_highHalf (h : p.p5 &&& 0x0f = p.p5) :
    (p.highHalf byteInFile).highHalf byteInFile = p := by
  simp only [highHalf, magicXor, xor_and_ushiftRight, xor_xor_self, xor_and_xor_and h]

lemma lowHalf_p5 (p : NiceFlorSBytes) :
    (p.lowHalf byteInFile).p5 &&& 0x0f = (p.lowHalf byteInFile).p5 := by
  rw [lowHalf, BitVec.and_assoc]
  rfl

lemma highHalf_p5 (p : NiceFlorSBytes) :
    (p.highHalf byteInFile).p5 &&& 0x0f = (p.highHalf byteInFile).p5 := by
  rw [highHalf, BitVec.and_assoc]
  rfl

lemma swap_swap (p : NiceFlorSBytes) : p.swap.swap = p := rfl

/-- The start of decryption takes the end of encryption back, but for bits that a half masks. -/
lemma restore_permute (p : NiceFlorSBytes) :
    p.permute.restore = { p with p5 := ~~~(~~~p.p5 &&& 0x0f) } := by
  simp only [permute, restore, BitVec.not_not]

lemma highHalf_restore_permute (p : NiceFlorSBytes) :
    p.permute.restore.highHalf byteInFile = p.highHalf byteInFile := by
  have hmask (x k : BitVec 8) : (~~~(~~~x &&& 0x0f) ^^^ k) &&& 0x0f = (x ^^^ k) &&& 0x0f := by
    refine BitVec.eq_of_getLsbD_eq fun i hi => ?_
    simp only [BitVec.getLsbD_and, BitVec.getLsbD_xor, BitVec.getLsbD_not, hi, decide_true,
      Bool.true_and]
    cases BitVec.getLsbD 0x0f#8 i <;> simp
  rw [restore_permute]
  simp only [highHalf, magicXor, hmask]

end NiceFlorSBytes

/-- The sixth byte of a word of 44 bits has a high half of zeros. -/
lemma niceFlorSBytes_p5 {data : BitVec 64} (h : data.toNat < 2 ^ 44) :
    (niceFlorSBytes data).p5 &&& 0x0f = (niceFlorSBytes data).p5 := by
  have hlt : (niceFlorSBytes data).p5.toNat < 2 ^ 4 := by
    simp only [niceFlorSBytes, BitVec.extractLsb'_toNat, Nat.shiftRight_eq_div_pow]
    omega
  refine BitVec.eq_of_toNat_eq ?_
  rw [BitVec.toNat_and, show (0x0f : BitVec 8).toNat = 2 ^ 4 - 1 from rfl, Nat.and_two_pow_sub_one_eq_mod,
    Nat.mod_eq_of_lt hlt]

lemma niceFlorS_decrypt_encrypt (byteInFile : BitVec 8 → BitVec 8) {data : BitVec 64}
    (h : data.toNat < 2 ^ 44) :
    subghzProtocolNiceFlorSDecrypt byteInFile (subghzProtocolNiceFlorSEncrypt byteInFile data) =
      data := by
  let p := niceFlorSBytes data
  let q := ((p.lowHalf byteInFile).highHalf byteInFile).swap
  have hq : q.p5 &&& 0x0f = q.p5 := NiceFlorSBytes.highHalf_p5 byteInFile (p.lowHalf byteInFile)
  -- the rounds are undone from the last half to the first one
  have hsecond : (((q.lowHalf byteInFile).highHalf byteInFile).highHalf byteInFile).lowHalf
      byteInFile = q := by
    rw [NiceFlorSBytes.highHalf_highHalf _ (NiceFlorSBytes.lowHalf_p5 _ _),
      NiceFlorSBytes.lowHalf_lowHalf _ hq]
  have hfirst : (q.swap.highHalf byteInFile).lowHalf byteInFile = p := by
    rw [NiceFlorSBytes.swap_swap, NiceFlorSBytes.highHalf_highHalf _ (NiceFlorSBytes.lowHalf_p5 _ _),
      NiceFlorSBytes.lowHalf_lowHalf _ (niceFlorSBytes_p5 h)]
  calc subghzProtocolNiceFlorSDecrypt byteInFile (subghzProtocolNiceFlorSEncrypt byteInFile data)
      = (((((q.lowHalf byteInFile).highHalf byteInFile).permute.restore.highHalf
          byteInFile).lowHalf byteInFile).swap.highHalf byteInFile |>.lowHalf byteInFile).data := by
        rw [subghzProtocolNiceFlorSDecrypt, subghzProtocolNiceFlorSEncrypt,
          NiceFlorSBytes.bytes_data]
    _ = data := by
        rw [NiceFlorSBytes.highHalf_restore_permute, hsecond, hfirst, NiceFlorSBytes.data_bytes]

/-! ### CAME Atomo -/

/-- A step of the sequence that turns bits over. -/
def atomoNext (tmpB : BitVec 8) : BitVec 8 :=
  if tmpB &&& 0x18 ≠ 0 ∧ (tmpB / 8) &&& 3 ≠ 3 then (tmpB <<< 1) ||| 1 else tmpB <<< 1

/-- The loop of `atomo_encrypt` and `atomo_decrypt` with so many rounds left, the bit count being
what is missing to 59. -/
def atomoBits : Nat → BitVec 8 → (Fin 8 → BitVec 8) → Fin 8 → BitVec 8
  | 0, _, buff => buff
  | left + 1, tmpB, buff =>
    let bitCnt := 58 - left
    let tmpB := atomoNext tmpB
    let byte : Fin 8 := ⟨bitCnt / 8, by omega⟩
    let buff :=
      if tmpB &&& 0x80 ≠ 0 then
        Function.update buff byte (buff byte ^^^ ((0x80 : BitVec 8) >>> (bitCnt &&& 7)))
      else buff
    atomoBits left tmpB buff

-- the bytes of a frame are numbered with one instance
lemma neZero_atomoSize : NeZero 8 := ⟨by decide⟩

attribute [local instance] neZero_atomoSize in
def atomoEncrypt (buff : Fin 8 → BitVec 8) : Fin 8 → BitVec 8 :=
  let buff' := atomoBits 51 ((~~~buff 0 + 1) &&& 0x7F) buff
  Function.update buff' 0 ((buff' 0 ^^^ 5) &&& 0x7F)

attribute [local instance] neZero_atomoSize in
def atomoDecrypt (buff : Fin 8 → BitVec 8) : Fin 8 → BitVec 8 :=
  let buff := Function.update buff 0 ((buff 0 ^^^ 5) &&& 0x7F)
  atomoBits 51 (-buff 0 &&& 0x7F) buff

attribute [local instance] neZero_atomoSize in
/-- The word in which a frame is stored. -/
def atomoStored (pack : Fin 8 → BitVec 8) : BitVec 64 :=
  let hi : BitVec 32 := pack 0 ++ pack 1 ++ pack 2 ++ pack 3
  let lo : BitVec 32 := pack 4 ++ pack 5 ++ pack 6 ++ pack 7
  let data : BitVec 64 := hi ++ lo
  ((data ^^^ 0xFFFFFFFFFFFFFFFF) >>> 4) &&& 0xFFFFFFFFFFFFFFF

/-- The frame that `subghz_protocol_came_atomo_remote_controller` takes out of the word. -/
def atomoPack (data : BitVec 64) : Fin 8 → BitVec 8 :=
  let data := (data ^^^ 0xFFFFFFFFFFFFFFFF) <<< 4
  fun i => (data >>> (56 - 8 * i.val)).setWidth 8

/-- The bytes of two frames added bit by bit. -/
def atomoXor (buff mask : Fin 8 → BitVec 8) : Fin 8 → BitVec 8 := fun i => buff i ^^^ mask i

lemma atomoBits_eq (left : Nat) (tmpB : BitVec 8) (buff mask : Fin 8 → BitVec 8) :
    atomoBits left tmpB (atomoXor buff mask) = atomoXor buff (atomoBits left tmpB mask) := by
  induction left generalizing tmpB mask with
  | zero => rfl
  | succ left ih =>
    rw [atomoBits, atomoBits, ← ih]
    congr 1
    split
    · funext i
      by_cases hi : i = ⟨(58 - left) / 8, by omega⟩
      · subst hi
        simp [atomoXor, BitVec.xor_assoc]
      · simp [atomoXor, Function.update_of_ne hi]
    · rfl

lemma atomoBits_atomoBits (left : Nat) (tmpB : BitVec 8) (buff : Fin 8 → BitVec 8) :
    atomoBits left tmpB (atomoBits left tmpB buff) = buff := by
  have hmask (b : Fin 8 → BitVec 8) :
      atomoBits left tmpB b = atomoXor b (atomoBits left tmpB fun _ => 0) := by
    have hzero : atomoXor b (fun _ => 0) = b := by
      funext i
      exact BitVec.xor_zero
    rw [← atomoBits_eq, hzero]
  rw [hmask (atomoBits left tmpB buff), hmask buff]
  funext i
  exact NiceFlorSBytes.xor_xor_self _ _

lemma atomoBits_zero {left : Nat} (hleft : left ≤ 51) (tmpB : BitVec 8)
    (buff : Fin 8 → BitVec 8) : atomoBits left tmpB buff 0 = buff 0 := by
  induction left generalizing tmpB buff with
  | zero => rfl
  | succ left ih =>
    rw [atomoBits, ih (by omega)]
    split
    · have hne : (0 : Fin 8) ≠ ⟨(58 - left) / 8, by omega⟩ := by
        rw [Ne, Fin.ext_iff]
        show ¬0 = (58 - left) / 8
        omega
      exact Function.update_of_ne hne _ _
    · rfl

/-- The last bits of the last byte are behind the bits the loop turns over. -/
lemma atomoBits_seven (left : Nat) (tmpB : BitVec 8) (buff : Fin 8 → BitVec 8) :
    atomoBits left tmpB buff 7 &&& 0x0f = buff 7 &&& 0x0f := by
  induction left generalizing tmpB buff with
  | zero => rfl
  | succ left ih =>
    rw [atomoBits, ih]
    split
    · by_cases hbyte : (7 : Fin 8) = ⟨(58 - left) / 8, by omega⟩
      · have hleft : left = 0 ∨ left = 1 ∨ left = 2 := by
          have hval : 7 = (58 - left) / 8 := congrArg Fin.val hbyte
          omega
        have hbit : ((0x80 : BitVec 8) >>> ((58 - left) &&& 7)) &&& 0x0f = 0 := by
          rcases hleft with rfl | rfl | rfl <;> rfl
        rw [← hbyte, Function.update_self]
        exact NiceFlorSBytes.xor_and_eq hbit
      · rw [Function.update_of_ne hbyte]
    · rfl

lemma and_low_eq_self {x : BitVec 8} (h : x < 0x80) : x &&& 0x7F = x := by
  refine BitVec.eq_of_toNat_eq ?_
  rw [BitVec.toNat_and]
  exact (Nat.and_two_pow_sub_one_eq_mod x.toNat 7).trans (Nat.mod_eq_of_lt h)

lemma atomo_decrypt_encrypt {buff : Fin 8 → BitVec 8} (h : buff 0 < 0x80) :
    atomoDecrypt (atomoEncrypt buff) = buff := by
  let tmpB := (~~~buff 0 + 1) &&& 0x7F
  let mixed := atomoBits 51 tmpB buff
  have hmixed : mixed 0 = buff 0 := atomoBits_zero (le_refl 51) tmpB buff
  have hfirst : (((mixed 0 ^^^ 5) &&& 0x7F) ^^^ 5) &&& 0x7F = mixed 0 :=
    NiceFlorSBytes.xor_and_xor_and (hmixed.symm ▸ and_low_eq_self h)
  have hstart : -mixed 0 &&& 0x7F = tmpB := by
    rw [hmixed, BitVec.neg_eq_not_add]
    rfl
  have hframe : atomoEncrypt buff = Function.update mixed 0 ((mixed 0 ^^^ 5) &&& 0x7F) := rfl
  rw [hframe, atomoDecrypt]
  simp only [Function.update_self, Function.update_idem]
  rw [hfirst, Function.update_eq_self, hstart]
  exact atomoBits_atomoBits 51 tmpB buff

/-- A word without its last four bits comes back from the word that stores it. -/
lemma shiftLeft_stored {data : BitVec 64} (h : data.extractLsb' 0 8 &&& 0x0f = 0) :
    ((((data ^^^ 0xFFFFFFFFFFFFFFFF) >>> 4) &&& 0xFFFFFFFFFFFFFFF) ^^^ 0xFFFFFFFFFFFFFFFF) <<< 4 =
      data := by
  have hones : (0xFFFFFFFFFFFFFFFF : BitVec 64) = BitVec.allOnes 64 := by decide
  have hmask : (0xFFFFFFFFFFFFFFF : BitVec 64) = (BitVec.allOnes 60).setWidth 64 := by decide
  rw [hones, hmask]
  refine BitVec.eq_of_getLsbD_eq fun i hi => ?_
  by_cases hlow : i < 4
  · have hbit : (data.extractLsb' 0 8 &&& 0x0f).getLsbD i = false := by
      rw [h]
      exact BitVec.getLsbD_zero
    have hone : (0x0f : BitVec 8).getLsbD i = true := by
      interval_cases i <;> rfl
    have hzero : data.getLsbD i = false := by
      rw [BitVec.getLsbD_and, hone, BitVec.getLsbD_extractLsb', Nat.zero_add] at hbit
      simpa [show i < 8 by omega] using hbit
    rw [hzero]
    simp [hlow]
  · obtain ⟨j, rfl⟩ : ∃ j, i = 4 + j := ⟨i - 4, by omega⟩
    have h60 : j < 60 := by omega
    have h64 : j < 64 := by omega
    simp only [BitVec.getLsbD_shiftLeft, BitVec.getLsbD_xor, BitVec.getLsbD_and,
      BitVec.getLsbD_ushiftRight, BitVec.getLsbD_setWidth, BitVec.getLsbD_allOnes, hi, hlow, h60, h64,
      Nat.add_sub_cancel_left, decide_true, decide_false, Bool.not_false, Bool.true_and, Bool.and_true,
      Bool.xor_true, Bool.not_not]

/-- The frame of a word is the bytes the word was put together from. -/
lemma atomoPack_stored {pack : Fin 8 → BitVec 8} (h : pack 7 &&& 0x0f = 0) :
    atomoPack (atomoStored pack) = pack := by
  simp only [atomoPack, atomoStored]
  rw [shiftLeft_stored]
  · funext i
    rw [BitVec.setWidth_ushiftRight_eq_extractLsb]
    fin_cases i
    all_goals
      simp (disch := decide) only [Nat.reduceMul, Nat.reduceSub,
        BitVec.extractLsb'_append_eq_of_add_le, BitVec.extractLsb'_append_eq_of_le,
        BitVec.extractLsb'_eq_self]
      first
        | rfl
        | exact BitVec.extractLsb'_eq_self
  · rw [BitVec.extractLsb'_append_eq_of_add_le (by decide),
      BitVec.extractLsb'_append_eq_of_add_le (by decide), BitVec.extractLsb'_eq_self, h]

/-- Words and frames come back from the ciphers of both protocols. -/
theorem scramblers_decrypt_encrypt :
    (∀ (byteInFile : BitVec 8 → BitVec 8) (data : BitVec 64), data.toNat < 2 ^ 44 →
      subghzProtocolNiceFlorSDecrypt byteInFile (subghzProtocolNiceFlorSEncrypt byteInFile data) =
        data) ∧
    ∀ buff : Fin 8 → BitVec 8, buff 0 < 0x80 →
      atomoDecrypt (atomoEncrypt buff) = buff ∧
        (buff 7 &&& 0x0f = 0 → atomoDecrypt (atomoPack (atomoStored (atomoEncrypt buff))) = buff) := by
  refine ⟨fun byteInFile data h => niceFlorS_decrypt_encrypt byteInFile h, fun buff h =>
    ⟨atomo_decrypt_encrypt h, fun hlow => ?_⟩⟩
  have hseven : atomoEncrypt buff 7 &&& 0x0f = 0 := by
    rw [← hlow, ← atomoBits_seven 51 ((~~~buff 0 + 1) &&& 0x7F) buff]
    rfl
  rw [atomoPack_stored hseven, atomo_decrypt_encrypt h]

theorem scramblers_decrypt_encrypt_sample :
    (let byteInFile : BitVec 8 → BitVec 8 := fun address => 7 * address + 3
    subghzProtocolNiceFlorSDecrypt byteInFile
      (subghzProtocolNiceFlorSEncrypt byteInFile 0xABCDE123456) = 0xABCDE123456) ∧
    (let buff : Fin 8 → BitVec 8 := ![0x42, 0x01, 0x02, 0x11, 0x22, 0x33, 0x44, 0x20]
    atomoDecrypt (atomoEncrypt buff) = buff ∧
      atomoDecrypt (atomoPack (atomoStored (atomoEncrypt buff))) = buff) :=
  ⟨scramblers_decrypt_encrypt.1 _ _ (by decide),
    (scramblers_decrypt_encrypt.2 _ (by decide)).1,
    (scramblers_decrypt_encrypt.2 _ (by decide)).2 (by decide)⟩

end FlipperZero
