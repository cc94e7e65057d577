import FlipperZero.Foundation.Crc
import FlipperZero.Nfc.FelicaListener
import FlipperZero.Nfc.MfClassicListener
import Mathlib.Data.List.Flatten

/-!
# Checksums of frames

`iso14443_crc.c`, `iso13239_crc.c` and `felica_crc.c` append two bytes to a frame that is sent, and
check and cut off the last two of one that is received. All of them are the register of
`x ^ 16 + x ^ 12 + x ^ 5 + 1`, taken a byte at a time by a formula (ISO 14443), bit by bit
(ISO 13239), or bit by bit the other way round (FeliCa). A frame passes exactly when the register,
fed with all of its bits, ends in a word that is always the same.
-/

namespace FlipperZero

open Foundation

/-! ### The code -/

/-- One byte of `iso14443_crc_calculate`. -/
def iso14443CrcByte (crc : BitVec 16) (byte : BitVec 8) : BitVec 16 :=
  let byte := byte ^^^ crc.setWidth 8
  let byte := byte ^^^ byte <<< 4
  crc >>> 8 ^^^ byte.setWidth 16 <<< 8 ^^^ byte.setWidth 16 <<< 3 ^^^ byte.setWidth 16 >>> 4

/-- One bit of `iso13239_crc_calculate`. -/
def iso13239CrcBit (crc : BitVec 16) : BitVec 16 :=
  if crc.getLsbD 0 then crc >>> 1 ^^^ 0x8408#16 else crc >>> 1

/-- One byte of `iso13239_crc_calculate`. -/
def iso13239CrcByte (crc : BitVec 16) (byte : BitVec 8) : BitVec 16 :=
  iso13239CrcBit^[8] (crc ^^^ byte.setWidth 16)

/-- The checksums: `Iso14443CrcType`, `Iso13239CrcType`, and the one of FeliCa. -/
inductive FrameCrc where
  | iso14443A
  | iso14443B
  | iso13239Default
  | iso13239Picopass
  | felica
  deriving DecidableEq

namespace FrameCrc

/-- `iso14443_crc_calculate`, `iso13239_crc_calculate` and `felica_crc_calculate`. -/
def calculate : FrameCrc → List (BitVec 8) → BitVec 16
  | .iso14443A,        bytes => iso14443CrcCalculate bytes
  | .iso14443B,        bytes => ~~~ bytes.foldl iso14443CrcByte 0xFFFF
  | .iso13239Default,  bytes => ~~~ bytes.foldl iso13239CrcByte 0xFFFF
  | .iso13239Picopass, bytes => bytes.foldl iso13239CrcByte 0xE012
  | .felica,           bytes => felicaCrcCalculate bytes

/-- `iso14443_crc_append`, `iso13239_crc_append` and `felica_crc_append`. -/
def append (crc : FrameCrc) (buf : BitBuffer) : Option BitBuffer :=
  let sum := crc.calculate (buf.bytes 0 buf.getSizeBytes)
  buf.appendBytes [sum.extractLsb' 0 8, sum.extractLsb' 8 8]

/-- `iso14443_crc_check`, `iso13239_crc_check` and `felica_crc_check`. -/
def check (crc : FrameCrc) (buf : BitBuffer) : Bool :=
  if buf.getSizeBytes ≤ 2 then false
  else
    let size := buf.getSizeBytes - 2
    crc.calculate (buf.bytes 0 size) == buf.data (size + 1) ++ buf.data size

/-- `iso14443_crc_trim`, `iso13239_crc_trim` and `felica_crc_trim`. A size below two wraps around,
and only the first of them checks that there is anything left. -/
def trim (crc : FrameCrc) (buf : BitBuffer) : Option BitBuffer :=
  let tooShort := if crc = .iso14443A ∨ crc = .iso14443B then 3 else 2
  if buf.getSizeBytes < tooShort then none else buf.setSizeBytes (buf.getSizeBytes - 2)

/-! ### The register -/

/-- The register before the first bit. -/
def init : FrameCrc → BitVec 16
  | .iso14443A        => 0x6363
  | .iso14443B        => 0xFFFF
  | .iso13239Default  => 0xFFFF
  | .iso13239Picopass => 0xE012
  | .felica           => 0

/-- What is added to the register at its end. -/
def mask : FrameCrc → BitVec 16
  | .iso14443B       => BitVec.allOnes 16
  | .iso13239Default => BitVec.allOnes 16
  | _                => 0

/-- A byte with the bit lowest that is taken first. -/
def orient : FrameCrc → BitVec 8 → BitVec 8
  | .felica, byte => byte.reverse
  | _,       byte => byte

/-- The bits of a frame in the order in which they are taken. -/
def bits (crc : FrameCrc) (bytes : List (BitVec 8)) : List Bool :=
  bytes.flatMap fun byte => lsbFirst (crc.orient byte)

/-- The register behind a frame that passes. -/
def good (crc : FrameCrc) : BitVec 16 := crcRun 0x8408 crc.mask (List.replicate 16 false)

/-! ### Bytes -/

lemma crcStep_false (s : BitVec 16) : crcStep 0x8408 s false = iso13239CrcBit s := by
  rw [crcStep, Bool.xor_false]
  rfl

lemma crcRun_zeros (s : BitVec 16) (n : Nat) :
    crcRun 0x8408 s (List.replicate n false) = iso13239CrcBit^[n] s := by
  induction n generalizing s with
  | zero => rfl
  | succ n ih =>
    rw [List.replicate_succ, crcRun_cons, crcStep_false, ih, Function.iterate_succ_apply]

lemma iso13239CrcByte_eq (s : BitVec 16) (byte : BitVec 8) :
    iso13239CrcByte s byte = crcRun 0x8408 s (lsbFirst byte) := by
  have hbyte (i : Nat) (hi : i < 16) :
      (byte.setWidth 16).getLsbD i = (lsbFirst byte).getD i false := by
    rw [getD_lsbFirst, BitVec.getLsbD_setWidth, decide_eq_true hi, Bool.true_and]
  rw [crcRun_eq_replicate rfl (by simp) hbyte, length_lsbFirst, crcRun_zeros, iso13239CrcByte]

/-- Eight steps bring the high byte down and leave of the low one what the formula adds. -/
lemma iterate_low : ∀ x : BitVec 8, iso13239CrcBit^[8] (x.setWidth 16) =
    (x ^^^ x <<< 4).setWidth 16 <<< 8 ^^^ (x ^^^ x <<< 4).setWidth 16 <<< 3 ^^^
      (x ^^^ x <<< 4).setWidth 16 >>> 4 := by
  decide +kernel

lemma iterate_high : ∀ x : BitVec 8, iso13239CrcBit^[8] (x ++ 0#8) = x.setWidth 16 := by
  decide +kernel

lemma iterate_xor (s t : BitVec 16) (n : Nat) :
    iso13239CrcBit^[n] (s ^^^ t) = iso13239CrcBit^[n] s ^^^ iso13239CrcBit^[n] t := by
  have hlen : (List.replicate n false).length = (List.replicate n false).length := rfl
  have hxor := crcRun_xor 0x8408 s t hlen
  rwa [zipWith_xor_self, List.length_replicate, crcRun_zeros, crcRun_zeros, crcRun_zeros] at hxor

lemma word_eq_xor (s : BitVec 16) :
    s = (s.extractLsb' 8 8 ++ 0#8) ^^^ (s.setWidth 8).setWidth 16 := by
  have hlow : (s.setWidth 8).setWidth 16 = 0#8 ++ s.extractLsb' 0 8 := by
    rw [BitVec.setWidth_eq_append (by decide), BitVec.setWidth_eq_extractLsb' (by decide)]
    rfl
  rw [hlow, BitVec.xor_append, BitVec.xor_zero, BitVec.zero_xor]
  exact (@BitVec.extractLsb'_append_extractLsb' 8 8 s).symm

lemma iso14443CrcByte_eq (s : BitVec 16) (byte : BitVec 8) :
    iso14443CrcByte s byte = crcRun 0x8408 s (lsbFirst byte) := by
  rw [← iso13239CrcByte_eq, iso13239CrcByte]
  have hhigh : (s ^^^ byte.setWidth 16).extractLsb' 8 8 = s.extractLsb' 8 8 := by
    rw [BitVec.extractLsb'_xor, BitVec.setWidth_eq_append (by decide)]
    exact (congrArg _ BitVec.extractLsb'_append_eq_left).trans BitVec.xor_zero
  have hlow : (s ^^^ byte.setWidth 16).setWidth 8 = byte ^^^ s.setWidth 8 := by
    rw [BitVec.setWidth_xor, BitVec.setWidth_setWidth_of_le _ (by decide), BitVec.setWidth_eq,
      BitVec.xor_comm]
  have hshift : (s.extractLsb' 8 8).setWidth 16 = s >>> 8 := by
    rw [BitVec.ushiftRight_eq_extractLsb'_of_lt (by decide),
      BitVec.setWidth_eq_append (by decide)]
  rw [word_eq_xor (s ^^^ byte.setWidth 16), iterate_xor, iterate_high, iterate_low, hhigh, hlow,
    hshift, iso14443CrcByte, BitVec.xor_assoc, BitVec.xor_assoc]
  simp only [BitVec.xor_assoc]

lemma reverse_xor {w : Nat} (x y : BitVec w) : (x ^^^ y).reverse = x.reverse ^^^ y.reverse := by
  apply BitVec.eq_of_getLsbD_eq
  intro i _
  simp only [BitVec.getLsbD_reverse, BitVec.getLsbD_xor, BitVec.getMsbD_xor]

lemma reverse_felicaCrcBit (s : BitVec 16) :
    (felicaCrcBit s).reverse = iso13239CrcBit s.reverse := by
  have hlow : s.reverse.getLsbD 0 = s.getLsbD 15 := by
    rw [BitVec.getLsbD_reverse]
    rfl
  have hshift : (s <<< 1).reverse = s.reverse >>> 1 := by
    apply BitVec.eq_of_getLsbD_eq
    intro i hi
    rw [BitVec.getLsbD_reverse, BitVec.getMsbD_shiftLeft, BitVec.getLsbD_ushiftRight,
      BitVec.getLsbD_reverse, Nat.add_comm]
  rw [felicaCrcBit, iso13239CrcBit, hlow, apply_ite BitVec.reverse, reverse_xor, hshift]
  rfl

/-- The other way round the bits of a byte are taken in the same way. -/
lemma reverse_felicaCrcByte (s : BitVec 16) (byte : BitVec 8) :
    (felicaCrcByte s byte).reverse = crcRun 0x8408 s.reverse (lsbFirst byte.reverse) := by
  have hiterate (n : Nat) (x : BitVec 16) :
      (felicaCrcBit^[n] x).reverse = iso13239CrcBit^[n] x.reverse := by
    induction n generalizing x with
    | zero => rfl
    | succ n ih =>
      rw [Function.iterate_succ_apply, ih, reverse_felicaCrcBit, Function.iterate_succ_apply]
  have hbyte : (byte ++ 0#8).reverse = byte.reverse.setWidth 16 := by
    rw [BitVec.reverse_append, BitVec.setWidth_eq_append (by decide)]
    rfl
  rw [← iso13239CrcByte_eq, iso13239CrcByte, felicaCrcByte, hiterate, reverse_xor]
  exact congrArg (fun x => iso13239CrcBit^[8] (s.reverse ^^^ x)) hbyte

/-! ### Frames -/

/-- What takes bytes one by one takes the bits of all of them. -/
lemma foldl_eq_crcRun (f : BitVec 16 → BitVec 8 → BitVec 16) (g : BitVec 16 → BitVec 16)
    (orient : BitVec 8 → BitVec 8)
    (hstep : ∀ s byte, g (f s byte) = crcRun 0x8408 (g s) (lsbFirst (orient byte)))
    (bytes : List (BitVec 8)) (s : BitVec 16) :
    g (bytes.foldl f s) =
      crcRun 0x8408 (g s) (bytes.flatMap fun byte => lsbFirst (orient byte)) := by
  induction bytes generalizing s with
  | nil => rfl
  | cons byte bytes ih =>
    rw [List.foldl_cons, ih, hstep, List.flatMap_cons, crcRun_append]

/-- The word of two bytes of a checksum, the first one low. -/
def word (crc : FrameCrc) (high low : BitVec 8) : BitVec 16 := crc.orient high ++ crc.orient low

lemma shiftLeft_or_ushiftRight (s : BitVec 16) :
    s <<< 8 ||| s >>> 8 = s.extractLsb' 0 8 ++ s.extractLsb' 8 8 := by
  rw [BitVec.shiftLeft_eq_concat_of_lt (by decide),
    BitVec.ushiftRight_eq_extractLsb'_of_lt (by decide)]
  refine BitVec.or_append.trans ?_
  rw [BitVec.or_zero, BitVec.zero_or]

lemma word_calculate (crc : FrameCrc) (bytes : List (BitVec 8)) :
    crc.word ((crc.calculate bytes).extractLsb' 8 8) ((crc.calculate bytes).extractLsb' 0 8) =
      crcRun 0x8408 crc.init (crc.bits bytes) ^^^ crc.mask := by
  have hsplit := @BitVec.extractLsb'_append_extractLsb' 8 8
  cases crc
  case iso14443A =>
    exact hsplit.trans ((foldl_eq_crcRun iso14443CrcByte id id iso14443CrcByte_eq
      bytes _).trans BitVec.xor_zero.symm)
  case iso14443B =>
    exact hsplit.trans (BitVec.xor_allOnes.symm.trans (congrArg (· ^^^ _)
      (foldl_eq_crcRun iso14443CrcByte id id iso14443CrcByte_eq bytes _)))
  case iso13239Default =>
    exact hsplit.trans (BitVec.xor_allOnes.symm.trans (congrArg (· ^^^ _)
      (foldl_eq_crcRun iso13239CrcByte id id iso13239CrcByte_eq bytes _)))
  case iso13239Picopass =>
    exact hsplit.trans ((foldl_eq_crcRun iso13239CrcByte id id iso13239CrcByte_eq
      bytes _).trans BitVec.xor_zero.symm)
  case felica =>
    have hfold := foldl_eq_crcRun felicaCrcByte BitVec.reverse BitVec.reverse reverse_felicaCrcByte
      bytes 0
    have hword (s : BitVec 16) :
        (s.extractLsb' 0 8).reverse ++ (s.extractLsb' 8 8).reverse = s.reverse :=
      BitVec.reverse_append.symm.trans (congrArg _ hsplit)
    rw [word, calculate, felicaCrcCalculate, shiftLeft_or_ushiftRight,
      BitVec.extractLsb'_append_eq_left, BitVec.extractLsb'_append_eq_right]
    exact (hword _).trans (hfold.trans BitVec.xor_zero.symm)

/-- The bits of the two bytes of a checksum are those of their word. -/
lemma bits_pair (crc : FrameCrc) (low high : BitVec 8) :
    crc.bits [low, high] = lsbFirst (crc.word high low) := by
  have hlsb (a b : BitVec 8) : lsbFirst a ++ lsbFirst b = lsbFirst (b ++ a) := by
    refine List.ext_getElem (by simp) fun i hi _ => ?_
    have hsum : i < 16 := by simpa using hi
    rw [← List.getD_eq_getElem _ false, ← List.getD_eq_getElem _ false, getD_lsbFirst,
      BitVec.getLsbD_append]
    by_cases hlow : i < 8
    · rw [List.getD_append _ _ _ _ (by rwa [length_lsbFirst]), getD_lsbFirst]
      simp [hlow]
    · rw [List.getD_append_right _ _ _ _ (by rw [length_lsbFirst]; omega), length_lsbFirst,
        getD_lsbFirst]
      simp [hlow]
  rw [bits, List.flatMap_cons, List.flatMap_cons, List.flatMap_nil, List.append_nil, hlsb, word]

lemma orient_injective (crc : FrameCrc) {a b : BitVec 8} (h : crc.orient a = crc.orient b) :
    a = b := by
  cases crc
  case felica =>
    have hback := congrArg BitVec.reverse h
    rwa [orient, orient, BitVec.reverse_reverse_eq, BitVec.reverse_reverse_eq] at hback
  all_goals exact h

/-! ### Checks -/

/-- The bytes of a frame are those before its checksum and the two of the checksum. -/
lemma bytes_split {buf : BitBuffer} {size : Nat} :
    buf.bytes 0 (size + 2) = buf.bytes 0 size ++ [buf.data size, buf.data (size + 1)] := by
  simp only [BitBuffer.bytes, List.range_succ, List.map_append, List.map_cons, List.map_nil,
    Nat.zero_add, List.append_assoc, List.singleton_append]

/-- A frame passes exactly when it is longer than a checksum and the register ends, after all of its
bits, where it has to. -/
lemma check_iff (crc : FrameCrc) (buf : BitBuffer) :
    crc.check buf = true ↔ 2 < buf.getSizeBytes ∧
      crcRun 0x8408 crc.init (crc.bits (buf.bytes 0 buf.getSizeBytes)) = crc.good := by
  rw [check]
  by_cases hshort : buf.getSizeBytes ≤ 2
  · rw [if_pos hshort]
    exact ⟨fun h => absurd h Bool.false_ne_true, fun h => absurd hshort (Nat.not_le.mpr h.1)⟩
  rw [if_neg hshort]
  obtain ⟨size, hsize⟩ : ∃ size, buf.getSizeBytes = size + 2 := ⟨buf.getSizeBytes - 2, by omega⟩
  have hbits : crc.bits (buf.bytes 0 (size + 2)) =
      crc.bits (buf.bytes 0 size) ++ lsbFirst (crc.word (buf.data (size + 1)) (buf.data size)) := by
    rw [← bits_pair, bytes_split, bits, List.flatMap_append]
    rfl
  rw [hsize, Nat.add_sub_cancel, hbits, crcRun_append, good,
    crcRun_lsbFirst_eq_iff (by decide) (by decide), ← word_calculate, beq_iff_eq]
  refine ⟨fun h => ⟨by omega, ?_⟩, fun h => ?_⟩
  · rw [h, BitVec.extractLsb'_append_eq_left, BitVec.extractLsb'_append_eq_right]
  · have hhigh := congrArg (BitVec.extractLsb' 8 8) h.2
    have hlow := congrArg (BitVec.extractLsb' 0 8) h.2
    rw [word, word, BitVec.extractLsb'_append_eq_left, BitVec.extractLsb'_append_eq_left] at hhigh
    rw [word, word, BitVec.extractLsb'_append_eq_right, BitVec.extractLsb'_append_eq_right] at hlow
    rw [← crc.orient_injective hhigh, ← crc.orient_injective hlow,
      @BitVec.extractLsb'_append_extractLsb' 8 8]

lemma check_burst {crc : FrameCrc} {buf other : BitBuffer} {before x y after : List Bool}
    (hbuf : crc.bits (buf.bytes 0 buf.getSizeBytes) = before ++ x ++ after)
    (hother : crc.bits (other.bytes 0 other.getSizeBytes) = before ++ y ++ after)
    (hlen : x.length = y.length) (hle : x.length ≤ 16) (hne : x ≠ y)
    (hcheck : crc.check buf = true) : crc.check other = false := by
  rw [Bool.eq_false_iff]
  intro hboth
  have hgood := ((check_iff crc buf).mp hcheck).2.trans ((check_iff crc other).mp hboth).2.symm
  rw [hbuf, hother] at hgood
  exact hne (crcRun_burst (by decide) (by decide) hlen hle crc.init before after hgood)

lemma check_append (crc : FrameCrc) {buf : BitBuffer} (hwhole : buf.sizeBits % 8 = 0)
    (hpos : 0 < buf.getSizeBytes) (hroom : buf.getSizeBytes + 2 ≤ buf.capacityBytes) :
    ∃ out, crc.append buf = some out ∧ crc.check out = true ∧
      ∃ back, crc.trim out = some back ∧ back.sizeBits = buf.sizeBits ∧
        back.bytes 0 buf.getSizeBytes = buf.bytes 0 buf.getSizeBytes := by
  obtain ⟨n, hn⟩ : ∃ n, buf.sizeBits = n * 8 := ⟨buf.sizeBits / 8, by omega⟩
  have hsize : buf.getSizeBytes = n := by
    rw [BitBuffer.getSizeBytes, hn, Nat.mul_mod_left, if_pos rfl, Nat.mul_div_cancel n (by decide)]
    rfl
  rw [hsize] at hpos hroom ⊢
  simp only [append, BitBuffer.appendBytes, hsize, List.length_cons, List.length_nil,
    Nat.reduceAdd]
  generalize hsum : crc.calculate (buf.bytes 0 n) = sum
  rw [if_pos hroom]
  refine ⟨_, rfl, ?_⟩
  generalize hout : ({ buf with
    data := buf.data.copy n [sum.extractLsb' 0 8, sum.extractLsb' 8 8]
    sizeBits := buf.sizeBits + 2 * 8 } : BitBuffer) = out
  have hbits : out.sizeBits = (n + 2) * 8 := by
    rw [← hout, Nat.add_mul, hn]
  have hsize' : out.getSizeBytes = n + 2 := by
    rw [BitBuffer.getSizeBytes, hbits, Nat.mul_mod_left, if_pos rfl,
      Nat.mul_div_cancel _ (by decide)]
  have hbytes : out.bytes 0 n = buf.bytes 0 n := by
    simp only [BitBuffer.bytes, ← hout, Nat.zero_add]
    refine List.map_congr_left fun i hi => ?_
    exact Memory.copy_of_lt (List.mem_range.mp hi)
  have hlow : out.data n = sum.extractLsb' 0 8 := by
    simp [← hout, Memory.copy]
  have hhigh : out.data (n + 1) = sum.extractLsb' 8 8 := by
    simp [← hout, Memory.copy]
  refine ⟨?_, ?_⟩
  · rw [check, hsize', if_neg (by omega), Nat.add_sub_cancel]
    dsimp only
    rw [hbytes, hlow, hhigh, @BitVec.extractLsb'_append_extractLsb' 8 8, hsum]
    exact beq_self_eq_true sum
  · have hcap : out.capacityBytes = buf.capacityBytes := by rw [← hout]
    have hlong : ¬ n + 2 < if crc = .iso14443A ∨ crc = .iso14443B then 3 else 2 := by
      split_ifs <;> omega
    rw [trim, hsize', if_neg hlong, BitBuffer.setSizeBytes, Nat.add_sub_cancel, hcap,
      if_pos (by omega)]
    exact ⟨_, rfl, hn.symm, hbytes⟩

/-- What a reader or a card sends is received as it was, or not at all: the checksum of a frame of
whole bytes is appended, the frame passes its check, and without the checksum it is the frame
before. A frame that is received instead, with a burst of at most sixteen wrong bits anywhere, does
not pass. The checksum is, for each of the protocols, the same register at the end of the bits. -/
theorem append_received (crc : FrameCrc) (buf : BitBuffer) (hwhole : buf.sizeBits % 8 = 0)
    (hpos : 0 < buf.getSizeBytes) (hroom : buf.getSizeBytes + 2 ≤ buf.capacityBytes) :
    (∃ out, crc.append buf = some out ∧ crc.check out = true ∧
      (∃ back, crc.trim out = some back ∧ back.sizeBits = buf.sizeBits ∧
        back.bytes 0 buf.getSizeBytes = buf.bytes 0 buf.getSizeBytes) ∧
      ∀ (received : BitBuffer) (before x y after : List Bool),
        crc.bits (out.bytes 0 out.getSizeBytes) = before ++ x ++ after →
        crc.bits (received.bytes 0 received.getSizeBytes) = before ++ y ++ after →
        x.length = y.length → x.length ≤ 16 → x ≠ y → crc.check received = false) ∧
    ∀ bytes : List (BitVec 8),
      crc.word ((crc.calculate bytes).extractLsb' 8 8) ((crc.calculate bytes).extractLsb' 0 8) =
        crcRun 0x8408 crc.init (crc.bits bytes) ^^^ crc.mask := by
  obtain ⟨out, happend, hcheck, hback⟩ := check_append crc hwhole hpos hroom
  refine ⟨⟨out, happend, hcheck, hback, ?_⟩, word_calculate crc⟩
  intro received before x y after hout hreceived hlen hle hne
  exact check_burst hout hreceived hlen hle hne hcheck

/-- A request to read the block 4. -/
theorem append_received_read : ∃ out,
    iso14443A.append (.ofBytes [0x30, 0x04]) = some out ∧ iso14443A.check out = true := by
  obtain ⟨⟨out, happend, hcheck, -⟩, -⟩ := append_received .iso14443A (.ofBytes [0x30, 0x04])
    (by decide) (by decide) (by decide)
  exact ⟨out, happend, hcheck⟩

end FrameCrc

end FlipperZero
