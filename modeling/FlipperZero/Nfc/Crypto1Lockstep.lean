import FlipperZero.Nfc.Crypto1
import FlipperZero.Toolbox.BitBufferParity

/-!
# Encryption and decryption in lockstep

Without a key stream of its own, `crypto1_encrypt` steps the register by nothing but its feedback,
and so does `crypto1_decrypt`. Registers that start equal stay equal, bit by bit in a frame of four
bits and byte by byte in the others. The parity bit of a byte is encrypted with the bit that the
filter gives next, before the register makes that step.
-/

namespace FlipperZero

open Foundation

variable {c : Crypto1} {buff out out' : BitBuffer}

/-! ### Bits -/

/-- The register after bits of the key stream. -/
def registerAfterBits (c : Crypto1) (n : Nat) : Crypto1 :=
  (List.range n).foldl (fun c _ => (crypto1Bit c false false).2) c

lemma registerAfterBits_succ (c : Crypto1) (n : Nat) :
    registerAfterBits c (n + 1) = (crypto1Bit (registerAfterBits c n) false false).2 := by
  rw [registerAfterBits, List.range_succ, List.foldl_append]
  rfl

/-- The bits of a byte under the key stream, the first ones. -/
def underKeystream (c : Crypto1) (x : BitVec 8) (n : Nat) : BitVec 8 × Crypto1 :=
  (List.range n).foldl (fun r i =>
    let (bit, c) := crypto1Bit r.2 false false
    (r.1 ||| (if bit ^^ x.getLsbD i then 1 else 0) <<< i, c)) (0, c)

lemma underKeystream_succ (c : Crypto1) (x : BitVec 8) (n : Nat) :
    underKeystream c x (n + 1) =
      ((underKeystream c x n).1 |||
          (if crypto1Filter (underKeystream c x n).2.odd ^^ x.getLsbD n then 1 else 0) <<< n,
        (crypto1Bit (underKeystream c x n).2 false false).2) := by
  rw [underKeystream, List.range_succ, List.foldl_append]
  rfl

lemma underKeystream_snd (c : Crypto1) (x : BitVec 8) (n : Nat) :
    (underKeystream c x n).2 = registerAfterBits c n := by
  induction n with
  | zero => rfl
  | succ n ih => rw [underKeystream_succ, ih, registerAfterBits_succ]

lemma getLsbD_bitAt (b : Bool) {n j : Nat} (hn : n < 8) :
    BitVec.getLsbD (w := 8) ((if b then 1 else 0) <<< n : Nat) j = (b && decide (j = n)) := by
  cases b with
  | false => simp
  | true =>
    have hone : ((1 <<< n : Nat) : BitVec 8) = BitVec.ofNat 8 (2 ^ n) := by
      rw [Nat.one_shiftLeft]
      rfl
    rw [if_pos rfl, hone, BitVec.getLsbD_ofNat, Nat.testBit_two_pow]
    by_cases hj : j = n
    · simp [hj, hn]
    · simp [hj, Ne.symm hj]

lemma getLsbD_underKeystream (c : Crypto1) (x : BitVec 8) {n j : Nat} (hn : n ≤ 8) :
    (underKeystream c x n).1.getLsbD j =
      (decide (j < n) && (crypto1Filter (registerAfterBits c j).odd ^^ x.getLsbD j)) := by
  induction n with
  | zero => simp [underKeystream]
  | succ n ih =>
    rw [underKeystream_succ, BitVec.getLsbD_or, ih (Nat.le_of_succ_le hn), underKeystream_snd,
      getLsbD_bitAt _ hn]
    rcases Nat.lt_trichotomy j n with hlt | rfl | hgt
    · simp [hlt, Nat.lt_succ_of_lt hlt, Nat.ne_of_lt hlt]
    · simp
    · simp [Nat.ne_of_gt hgt, Nat.not_lt.mpr (Nat.le_of_lt hgt), Nat.not_lt.mpr (Nat.succ_le_of_lt hgt)]

lemma crypto1Byte_eq_underKeystream (c : Crypto1) :
    crypto1Byte c 0 false = underKeystream c 0 8 := by
  simp [crypto1Byte, underKeystream]

/-! ### Bytes -/

/-- The register after bytes of the key stream. -/
def registerAfter (c : Crypto1) (n : Nat) : Crypto1 :=
  (List.range n).foldl (fun c _ => (crypto1Byte c 0 false).2) c

lemma registerAfter_succ (c : Crypto1) (n : Nat) :
    registerAfter c (n + 1) = (crypto1Byte (registerAfter c n) 0 false).2 := by
  rw [registerAfter, List.range_succ, List.foldl_append]
  rfl

def keystreamByte (c : Crypto1) (i : Nat) : BitVec 8 := (crypto1Byte (registerAfter c i) 0 false).1

/-- The filter gives the first bit of the byte that comes next. -/
lemma getLsbD_keystreamByte_zero (c : Crypto1) (i : Nat) :
    (keystreamByte c i).getLsbD 0 = crypto1Filter (registerAfter c i).odd := by
  rw [keystreamByte, crypto1Byte_eq_underKeystream, getLsbD_underKeystream _ _ (Nat.le_refl 8)]
  simp [registerAfterBits]

/-- The first bytes of a frame are encrypted into a buffer. -/
structure Encrypted (c : Crypto1) (buff out : BitBuffer) (n : Nat) (r : Crypto1 × BitBuffer) :
    Prop where
  register : r.1 = registerAfter c n
  sizeBits : r.2.sizeBits = out.sizeBits
  data : ∀ i < n, r.2.data i = keystreamByte c i ^^^ buff.data i
  parity : ∀ i < n, r.2.parity i = (oddParity8 (buff.data i) ^^ (keystreamByte c (i + 1)).getLsbD 0)
  clear : ∀ j, n ≤ j → j < 8 * ((n + 7) / 8) → r.2.parity j = false

/-- One byte of `crypto1_encrypt`. -/
def encryptByte (buff : BitBuffer) (r : Crypto1 × BitBuffer) (i : Nat) :
    Option (Crypto1 × BitBuffer) :=
  (r.2.setByteWithParity i ((crypto1Byte r.1 0 false).1 ^^^ buff.data i)
    (crypto1Filter (crypto1Byte r.1 0 false).2.odd ^^ oddParity8 (buff.data i))).map fun out =>
      ((crypto1Byte r.1 0 false).2, out)

lemma encryptByte_eq {r : Crypto1 × BitBuffer} {n : Nat} (hn : n < r.2.sizeBits / 8) :
    encryptByte buff r n = some ((crypto1Byte r.1 0 false).2, { r.2 with
      data := Function.update r.2.data n ((crypto1Byte r.1 0 false).1 ^^^ buff.data n)
      parity := BitBuffer.storeParity r.2.parity n
        (crypto1Filter (crypto1Byte r.1 0 false).2.odd ^^ oddParity8 (buff.data n)) }) := by
  rw [encryptByte, BitBuffer.setByteWithParity, if_pos hn]
  rfl

lemma Encrypted.succ {n : Nat} {r : Crypto1 × BitBuffer} (h : Encrypted c buff out n r)
    (hn : n < out.sizeBits / 8) :
    ∃ r', encryptByte buff r n = some r' ∧ Encrypted c buff out (n + 1) r' := by
  obtain ⟨hregister, hsize, hdata, hparity, hclear⟩ := h
  have hn' : n < r.2.sizeBits / 8 := hsize ▸ hn
  refine ⟨_, encryptByte_eq hn', ?_, hsize, ?_, ?_, ?_⟩
  · simp only [hregister, registerAfter_succ]
  · intro i hi
    rcases Nat.lt_succ_iff_lt_or_eq.mp hi with hlt | rfl
    · simp [Function.update_of_ne (Nat.ne_of_lt hlt), hdata i hlt]
    · simp [hregister, keystreamByte]
  · intro i hi
    rcases Nat.lt_succ_iff_lt_or_eq.mp hi with hlt | rfl
    · simp [BitBuffer.storeParity_of_lt _ hlt, hparity i hlt]
    · simp only [hregister]
      rw [BitBuffer.storeParity_self _ fun hne => hclear i (Nat.le_refl i) (by omega),
        getLsbD_keystreamByte_zero, registerAfter_succ, Bool.xor_comm]
  · exact fun j hj hend => BitBuffer.clear_storeParity _ hclear hj hend

lemma encrypted_foldlM (c : Crypto1) (buff out : BitBuffer) {n : Nat} (hn : n ≤ out.sizeBits / 8) :
    ∃ r, (List.range n).foldlM (encryptByte buff) (c, out) = some r ∧ Encrypted c buff out n r := by
  induction n with
  | zero =>
    refine ⟨(c, out), rfl, rfl, rfl, ?_, ?_, ?_⟩
    · exact fun i hi => absurd hi (Nat.not_lt_zero i)
    · exact fun i hi => absurd hi (Nat.not_lt_zero i)
    · exact fun j _ hj => absurd hj (Nat.not_lt_zero j)
  | succ n ih =>
    obtain ⟨r, hr, hencrypted⟩ := ih (Nat.le_of_succ_le hn)
    obtain ⟨r', hr', hnext⟩ := hencrypted.succ hn
    refine ⟨r', ?_, hnext⟩
    rw [List.range_succ, List.foldlM_append, hr]
    simp [hr']

/-- The first bytes of a frame are decrypted into a buffer. -/
structure Decrypted (c : Crypto1) (buff out : BitBuffer) (n : Nat) (r : Crypto1 × BitBuffer) :
    Prop where
  register : r.1 = registerAfter c n
  sizeBits : r.2.sizeBits = out.sizeBits
  data : ∀ i < n, r.2.data i = keystreamByte c i ^^^ buff.data i

/-- One byte of `crypto1_decrypt`. -/
def decryptByte (buff : BitBuffer) (r : Crypto1 × BitBuffer) (i : Nat) :
    Option (Crypto1 × BitBuffer) :=
  (r.2.setByte i ((crypto1Byte r.1 0 false).1 ^^^ buff.data i)).map fun out =>
    ((crypto1Byte r.1 0 false).2, out)

lemma decryptByte_eq {r : Crypto1 × BitBuffer} {n : Nat} (hn : n < r.2.sizeBits / 8) :
    decryptByte buff r n = some ((crypto1Byte r.1 0 false).2, { r.2 with
      data := Function.update r.2.data n ((crypto1Byte r.1 0 false).1 ^^^ buff.data n) }) := by
  have hbytes : n < r.2.getSizeBytes := Nat.lt_of_lt_of_le hn (Nat.le_add_right _ _)
  rw [decryptByte, BitBuffer.setByte, if_pos hbytes]
  rfl

lemma Decrypted.succ {n : Nat} {r : Crypto1 × BitBuffer} (h : Decrypted c buff out n r)
    (hn : n < out.sizeBits / 8) :
    ∃ r', decryptByte buff r n = some r' ∧ Decrypted c buff out (n + 1) r' := by
  obtain ⟨hregister, hsize, hdata⟩ := h
  have hn' : n < r.2.sizeBits / 8 := hsize ▸ hn
  refine ⟨_, decryptByte_eq hn', ?_, hsize, ?_⟩
  · simp only [hregister, registerAfter_succ]
  · intro i hi
    rcases Nat.lt_succ_iff_lt_or_eq.mp hi with hlt | rfl
    · simp [Function.update_of_ne (Nat.ne_of_lt hlt), hdata i hlt]
    · simp [hregister, keystreamByte]

lemma decrypted_foldlM (c : Crypto1) (buff out : BitBuffer) {n : Nat} (hn : n ≤ out.sizeBits / 8) :
    ∃ r, (List.range n).foldlM (decryptByte buff) (c, out) = some r ∧ Decrypted c buff out n r := by
  induction n with
  | zero => exact ⟨(c, out), rfl, rfl, rfl, fun i hi => absurd hi (Nat.not_lt_zero i)⟩
  | succ n ih =>
    obtain ⟨r, hr, hdecrypted⟩ := ih (Nat.le_of_succ_le hn)
    obtain ⟨r', hr', hnext⟩ := hdecrypted.succ hn
    refine ⟨r', ?_, hnext⟩
    rw [List.range_succ, List.foldlM_append, hr]
    simp [hr']

/-! ### Frames -/

lemma crypto1Encrypt_bytes (hsize : ¬ buff.getSize < 8) (hout : buff.getSize ≤ out.capacityBytes * 8) :
    crypto1Encrypt c [] buff out =
      (List.range (buff.getSize / 8)).foldlM (encryptByte buff)
        (c, { out with sizeBits := buff.getSize }) := by
  rw [crypto1Encrypt, BitBuffer.setSize, if_pos hout, Option.bind_some, if_neg hsize]
  rfl

lemma crypto1Decrypt_bytes (hsize : ¬ buff.getSize < 8) (hout : buff.getSize ≤ out.capacityBytes * 8) :
    crypto1Decrypt c buff out =
      (List.range (buff.getSize / 8)).foldlM (decryptByte buff)
        (c, { out with sizeBits := buff.getSize }) := by
  rw [crypto1Decrypt, BitBuffer.setSize, if_pos hout, Option.bind_some, if_neg hsize]
  rfl

lemma crypto1Encrypt_nibble (hsize : buff.getSize = 4) (hout : buff.getSize ≤ out.capacityBytes * 8) :
    crypto1Encrypt c [] buff out = some (registerAfterBits c 4, { out with
      sizeBits := 4
      data := Function.update out.data 0 (underKeystream c (buff.data 0) 4).1 }) := by
  rw [crypto1Encrypt, BitBuffer.setSize, if_pos hout, Option.bind_some, if_pos (by omega), hsize,
    ← underKeystream_snd c (buff.data 0)]
  rfl

lemma crypto1Decrypt_nibble (hsize : buff.getSize = 4) (hout : buff.getSize ≤ out.capacityBytes * 8) :
    crypto1Decrypt c buff out = some (registerAfterBits c 4, { out with
      sizeBits := 4
      data := Function.update out.data 0 (underKeystream c (buff.data 0) 4).1 }) := by
  rw [crypto1Decrypt, BitBuffer.setSize, if_pos hout, Option.bind_some, if_pos (by omega), hsize,
    ← underKeystream_snd c (buff.data 0)]
  rfl

/-- A frame that is encrypted and then decrypted comes back, the registers stay equal, and a parity
bit is encrypted with the first bit of the byte of the key stream that comes next. -/
def InLockstep (c : Crypto1) (buff out back : BitBuffer) : Prop :=
  ∃ c' encrypted decrypted, crypto1Encrypt c [] buff out = some (c', encrypted) ∧
    crypto1Decrypt c encrypted back = some (c', decrypted) ∧
    decrypted.getSize = buff.getSize ∧
    (∀ b < buff.getSize, decrypted.data.bit b = buff.data.bit b) ∧
    ∀ i < buff.getSize / 8, encrypted.data i = keystreamByte c i ^^^ buff.data i ∧
      encrypted.parity i = (oddParity8 (buff.data i) ^^ (keystreamByte c (i + 1)).getLsbD 0)

variable {back : BitBuffer}

lemma inLockstep_bytes (hwhole : buff.getSize % 8 = 0) (hne : buff.getSize ≠ 0)
    (hout : buff.getSize ≤ out.capacityBytes * 8) (hback : buff.getSize ≤ back.capacityBytes * 8) :
    InLockstep c buff out back := by
  have hsize : ¬ buff.getSize < 8 := by omega
  obtain ⟨r, hr, hencrypted⟩ := encrypted_foldlM c buff { out with sizeBits := buff.getSize }
    (Nat.le_refl (buff.getSize / 8))
  have hsame : r.2.getSize = buff.getSize := hencrypted.sizeBits
  obtain ⟨r', hr', hdecrypted⟩ := decrypted_foldlM c r.2 { back with sizeBits := buff.getSize }
    (Nat.le_refl (buff.getSize / 8))
  have hregister : r'.1 = r.1 := hdecrypted.register.trans hencrypted.register.symm
  refine ⟨r.1, r.2, r'.2, ?_, ?_, hdecrypted.sizeBits, ?_, fun i hi => ?_⟩
  · rw [crypto1Encrypt_bytes hsize hout, hr]
  · rw [crypto1Decrypt_bytes (hsame ▸ hsize) (hsame ▸ hback), hsame, hr', ← hregister]
  · intro b hb
    have hlt : b / 8 < buff.getSize / 8 := by omega
    apply Memory.bit_congr
    rw [hdecrypted.data _ hlt, hencrypted.data _ hlt, ← BitVec.xor_assoc, BitVec.xor_self,
      BitVec.zero_xor]
  · exact ⟨hencrypted.data i hi, hencrypted.parity i hi⟩

lemma inLockstep_nibble (hsize : buff.getSize = 4) (hout : buff.getSize ≤ out.capacityBytes * 8)
    (hback : buff.getSize ≤ back.capacityBytes * 8) : InLockstep c buff out back := by
  refine ⟨_, _, _, crypto1Encrypt_nibble hsize hout,
    crypto1Decrypt_nibble rfl (hsize ▸ hback), hsize.symm, ?_, fun i hi => ?_⟩
  · intro b hb
    rw [hsize] at hb
    have hbyte : b / 8 = 0 := Nat.div_eq_of_lt (by omega)
    have hbit : b % 8 = b := Nat.mod_eq_of_lt (by omega)
    simp [Memory.bit, hbyte, hbit, getLsbD_underKeystream, hb]
  · rw [hsize] at hi
    exact absurd hi (Nat.not_lt_zero i)

/-- Encryption and decryption keep step over every frame of whole bytes that is not empty and over
every frame of four bits. -/
theorem crypto1Decrypt_crypto1Encrypt (c : Crypto1) (buff out back : BitBuffer)
    (hframe : buff.getSize % 8 = 0 ∧ buff.getSize ≠ 0 ∨ buff.getSize = 4)
    (hout : buff.getSize ≤ out.capacityBytes * 8) (hback : buff.getSize ≤ back.capacityBytes * 8) :
    InLockstep c buff out back := by
  rcases hframe with ⟨hwhole, hne⟩ | hnibble
  · exact inLockstep_bytes hwhole hne hout hback
  · exact inLockstep_nibble hnibble hout hback

/-- A frame of two bytes under a key. -/
theorem crypto1Decrypt_crypto1Encrypt_two :
    InLockstep (crypto1Init 0xFFFFFFFFFFFF) (.ofBytes [0x30, 0x04]) (.alloc 2) (.alloc 2) :=
  crypto1Decrypt_crypto1Encrypt _ _ _ _ (by decide) (by decide) (by decide)

/-- An empty frame has no byte to write. -/
theorem not_inLockstep_empty :
    ¬ InLockstep (crypto1Init 0xFFFFFFFFFFFF) (.ofBytes []) (.alloc 2) (.alloc 2) := by
  rintro ⟨c', encrypted, decrypted, hencrypt, -⟩
  have hnone : crypto1Encrypt (crypto1Init 0xFFFFFFFFFFFF) [] (.ofBytes []) (.alloc 2) = none := rfl
  rw [hnone] at hencrypt
  cases hencrypt

end FlipperZero
