import FlipperZero.BitLib.BitFields
import FlipperZero.Foundation.BigEndian
import Mathlib.Data.List.Basic

/-!
# HID Proximity cards

A card has 44 bits: a header that tells the size of the key, and the key. Every bit is sent as two
bits that differ. The key is shown in hexadecimal digits. If the size is no multiple of four, the
first digit has less than four bits; the others are still read as if it had four, so that bits are
left out behind the first digit and taken from behind the key for the last one.
-/

namespace FlipperZero

open Foundation

/-! ### The protocol -/

def hidPreamble : BitVec 8 := 0x1D

def protocolHidGenericCanBeDecoded (data : Memory) : Bool :=
  if data 0 ≠ hidPreamble ∨ data 12 ≠ hidPreamble then false
  else (List.range 11).all fun i => (List.range 4).all fun n =>
    let bitPair := data (1 + i) >>> (n * 2) &&& 0b11
    !(bitPair == 0b11 || bitPair == 0b00)

/-- A round of `protocol_hid_generic_decode`. -/
def protocolHidGenericDecodeBit (encodedData decodedData : Memory) (bitIndex : Nat) : Memory :=
  let bitPair := encodedData (1 + bitIndex / 4) >>> (6 - bitIndex % 4 * 2) &&& 0b11
  if bitPair = 0b01 then bitLibSetBit decodedData bitIndex false
  else if bitPair = 0b10 then bitLibSetBit decodedData bitIndex true
  else decodedData

def protocolHidGenericDecode (encodedData decodedData : Memory) : Memory :=
  (List.range 44).foldl (protocolHidGenericDecodeBit encodedData) decodedData

/-- The loop of `protocol_hid_generic_decode_protocol_size`. -/
def hidProtocolSizeLoop (data : Memory) : Nat → Nat → Nat
  | _, 0                => 0
  | bitIndex, size + 1 =>
    if !bitLibGetBit data bitIndex && 26 ≤ size + 1 then hidProtocolSizeLoop data (bitIndex + 1) size
    else size + 1

/-- `protocol_hid_generic_decode_protocol_size`. No size is `HID_PROTOCOL_SIZE_UNKNOWN`. -/
def protocolHidGenericDecodeProtocolSize (data : Memory) : Option Nat :=
  match (List.range 6).find? (bitLibGetBit data) with
  | some bitIndex => some (44 - bitIndex - 1)
  | none =>
    if !bitLibGetBit data 6 then some 37
    else
      let size := hidProtocolSizeLoop data 7 36
      if size < 26 then none else some size

/-- A round of `protocol_hid_generic_encode`. -/
def protocolHidGenericEncodeBit (data encodedData : Memory) (i : Nat) : Memory :=
  if bitLibGetBit data i then bitLibSetBit (bitLibSetBit encodedData (8 + 2 * i) true) (8 + 2 * i + 1) false
  else bitLibSetBit (bitLibSetBit encodedData (8 + 2 * i) false) (8 + 2 * i + 1) true

def protocolHidGenericEncode (data encodedData : Memory) : Memory :=
  (List.range 44).foldl (protocolHidGenericEncodeBit data) (Function.update encodedData 0 hidPreamble)

/-- The position and the number of the bits of a digit. -/
def hidDigitBits (protocolSize i : Nat) : Nat × Nat :=
  let protocolBitIndex := 44 - protocolSize
  if i = 0 then (protocolBitIndex, if protocolSize % 4 = 0 then 4 else protocolSize % 4)
  else (protocolBitIndex + i * 4, 4)

/-- The format `%X` of less than sixteen. -/
def hexCharacter (n : Nat) : Char := (Nat.digitChar n).toUpper

/-- The digits of `protocol_hid_generic_string_cat_protocol_bits`. -/
def protocolHidGenericStringCatProtocolBits (data : Memory) (protocolSize : Nat) : List Char :=
  let hexCharacterCount := (protocolSize + 3) / 4
  (List.range hexCharacterCount).map fun i =>
    let bits := hidDigitBits protocolSize i
    let nibble := bitLibGetBits data bits.1 bits.2
    hexCharacter (nibble &&& 0xF).toNat

/-! ### What a card shows -/

def hexValue (c : Char) : Nat := if c.isDigit then c.toNat - '0'.toNat else c.toNat - 'A'.toNat + 10

/-- The number that digits denote. -/
def hexNumber (text : List Char) : Nat := text.foldl (fun n c => 16 * n + hexValue c) 0

/-- The bits that are taken for the digits, in their order. -/
def hidShownBits (protocolSize : Nat) : List Nat :=
  (List.range ((protocolSize + 3) / 4)).flatMap fun i =>
    List.range' (hidDigitBits protocolSize i).1 (hidDigitBits protocolSize i).2

/-- The digits are those of the key, and its bits are taken one after the other. -/
structure HidShowsKey (data : Memory) (size : Nat) : Prop where
  number : hexNumber (protocolHidGenericStringCatProtocolBits data size) =
    bigEndian (fun k => bitLibGetBit data (44 - size + k)) size
  bits : hidShownBits size = List.range' (44 - size) size

/-- A card is the same after its frame has been decoded, whatever was in the arrays. The frame is
accepted with the first byte of the next one behind it. -/
def HidRoundTrip (data : Memory) : Prop :=
  ∀ encodedData decodedData : Memory,
    let frame := protocolHidGenericEncode data encodedData
    protocolHidGenericCanBeDecoded (repeatedFrame 12 frame) = true ∧
      ∀ i < 44, bitLibGetBit (protocolHidGenericDecode frame decodedData) i = bitLibGetBit data i ∧
        bitLibGetBit (protocolHidGenericDecode (repeatedFrame 12 frame) decodedData) i =
          bitLibGetBit data i

/-! ### The size -/

lemma hidProtocolSizeLoop_le (data : Memory) (bitIndex size : Nat) :
    hidProtocolSizeLoop data bitIndex size ≤ size := by
  induction size generalizing bitIndex with
  | zero => exact Nat.le_refl 0
  | succ size ih =>
    rw [hidProtocolSizeLoop]
    split_ifs
    · exact Nat.le_succ_of_le (ih (bitIndex + 1))
    · exact Nat.le_refl _

lemma hidProtocolSize_bounds {data : Memory} {size : Nat}
    (h : protocolHidGenericDecodeProtocolSize data = some size) : 26 ≤ size ∧ size ≤ 43 := by
  rw [protocolHidGenericDecodeProtocolSize] at h
  split at h
  · rename_i bitIndex hfind
    have hlt : bitIndex < 6 := List.mem_range.mp (List.mem_of_find?_eq_some hfind)
    obtain rfl := Option.some.inj h
    omega
  · split_ifs at h with hbit
    · obtain rfl := Option.some.inj h
      omega
    · have hle := hidProtocolSizeLoop_le data 7 36
      obtain ⟨hunknown, hsome⟩ := Option.ite_none_left_eq_some.mp h
      obtain rfl := Option.some.inj hsome
      omega

/-! ### The digits -/

lemma hexValue_hexCharacter : ∀ n < 16, hexValue (hexCharacter n) = n := by decide

lemma hexNumber_append (text : List Char) (c : Char) :
    hexNumber (text ++ [c]) = 16 * hexNumber text + hexValue c := by
  rw [hexNumber, List.foldl_append]
  rfl

lemma bitLibGetBits_digit (data : Memory) (position : Nat) {length : Nat} (h : length ≤ 4) :
    (bitLibGetBits data position length &&& 0xF).toNat =
      bigEndian (fun k => bitLibGetBit data (position + k)) length := by
  have hbits : bitLibGetBits data position length &&& 0xF =
      packed 8 (fun k => bitLibGetBit data (position + k)) length := by
    apply BitVec.eq_of_getLsbD_eq
    intro i hi
    rw [BitVec.getLsbD_and, getLsbD_bitLibGetBits _ _ (by omega), getLsbD_packed _ hi]
    have hmask : ∀ i < 4, (0xF : BitVec 8).getLsbD i = true := by decide
    by_cases hlt : i < length
    · rw [hmask i (by omega), Bool.and_true]
    · rw [decide_eq_false hlt, Bool.false_and, Bool.false_and]
  rw [hbits, toNat_packed (by omega)]

lemma hidDigitBits_eq {size : Nat} (h : size % 4 = 0) (i : Nat) :
    hidDigitBits size i = (44 - size + 4 * i, 4) := by
  rw [hidDigitBits, if_pos h]
  by_cases hi : i = 0
  · rw [if_pos hi, hi, Nat.mul_zero, Nat.add_zero]
  · rw [if_neg hi, Nat.mul_comm]

lemma hexNumber_digits (data : Memory) {size : Nat} (h : size % 4 = 0) (m : Nat) :
    hexNumber ((List.range m).map fun i => hexCharacter
      (bitLibGetBits data (hidDigitBits size i).1 (hidDigitBits size i).2 &&& 0xF).toNat) =
        bigEndian (fun k => bitLibGetBit data (44 - size + k)) (4 * m) := by
  induction m with
  | zero => rfl
  | succ m ih =>
    have hdigit := bitLibGetBits_digit data (44 - size + 4 * m) (Nat.le_refl 4)
    have hlt := bigEndian_lt (fun k => bitLibGetBit data (44 - size + 4 * m + k)) 4
    rw [List.range_succ, List.map_append, List.map_singleton, hexNumber_append, ih,
      hidDigitBits_eq h, hdigit, hexValue_hexCharacter _ hlt, Nat.mul_succ, bigEndian_add]
    simp only [Nat.add_assoc]
    rfl

lemma hidShownBits_prefix {size : Nat} (h : size % 4 = 0) (m : Nat) :
    ((List.range m).flatMap fun i =>
      List.range' (hidDigitBits size i).1 (hidDigitBits size i).2) = List.range' (44 - size) (4 * m) := by
  induction m with
  | zero => rfl
  | succ m ih =>
    rw [List.range_succ, List.flatMap_append, ih, List.flatMap_singleton, hidDigitBits_eq h,
      Nat.mul_succ, ← List.range'_append_1]

lemma hidShowsKey_of_multiple (data : Memory) {size : Nat} (h : size % 4 = 0) :
    HidShowsKey data size := by
  have hcount : 4 * ((size + 3) / 4) = size := by omega
  constructor
  · rw [protocolHidGenericStringCatProtocolBits, hexNumber_digits data h, hcount]
  · rw [hidShownBits, hidShownBits_prefix h, hcount]

lemma multiple_of_hidShowsKey {data : Memory} {size : Nat} (hsize : 4 ≤ size)
    (h : HidShowsKey data size) : size % 4 = 0 := by
  by_contra hrest
  have hlast : 44 - size + size / 4 * 4 + 3 ∈ hidShownBits size := by
    refine List.mem_flatMap.mpr ⟨size / 4, List.mem_range.mpr (by omega), ?_⟩
    rw [hidDigitBits, if_neg (by omega)]
    exact List.mem_range'_1.mpr (by omega)
  rw [h.bits, List.mem_range'_1] at hlast
  omega

/-! ### The frame -/

lemma bitPair_of_bits {byte : BitVec 8} {s : Nat} {bit : Bool} (hhigh : byte.getLsbD (s + 1) = bit)
    (hlow : byte.getLsbD s = !bit) : byte >>> s &&& 0b11 = if bit then 0b10 else 0b01 := by
  apply BitVec.eq_of_getLsbD_eq
  intro i hi
  rw [BitVec.getLsbD_and, BitVec.getLsbD_ushiftRight]
  match i with
  | 0 =>
    rw [Nat.add_zero, hlow]
    cases bit <;> rfl
  | 1 =>
    rw [hhigh]
    cases bit <;> rfl
  | i + 2 =>
    have hmask : ∀ i < 6, (0b11 : BitVec 8).getLsbD (i + 2) = false ∧
        ∀ bit : Bool, (if bit then 0b10 else 0b01 : BitVec 8).getLsbD (i + 2) = false := by decide
    rw [(hmask i (by omega)).1, (hmask i (by omega)).2, Bool.and_false]

/-- The bits of a frame, as far as they have been written. -/
structure HidFrame (data : Memory) (n : Nat) (encoded : Memory) : Prop where
  preamble : encoded 0 = hidPreamble
  first : ∀ i < n, bitLibGetBit encoded (8 + 2 * i) = bitLibGetBit data i
  second : ∀ i < n, bitLibGetBit encoded (8 + 2 * i + 1) = !bitLibGetBit data i

lemma protocolHidGenericEncodeBit_eq (data encodedData : Memory) (i : Nat) :
    protocolHidGenericEncodeBit data encodedData i =
      bitLibSetBit (bitLibSetBit encodedData (8 + 2 * i) (bitLibGetBit data i)) (8 + 2 * i + 1)
        (!bitLibGetBit data i) := by
  rw [protocolHidGenericEncodeBit]
  cases bitLibGetBit data i <;> rfl

lemma bitLibSetBit_first (data : Memory) {position : Nat} (h : 8 ≤ position) (bit : Bool) :
    bitLibSetBit data position bit 0 = data 0 :=
  Function.update_of_ne (by omega) _ _

lemma HidFrame.succ {data encoded : Memory} {n : Nat} (h : HidFrame data n encoded) :
    HidFrame data (n + 1) (protocolHidGenericEncodeBit data encoded n) := by
  rw [protocolHidGenericEncodeBit_eq]
  refine ⟨?_, fun i hi => ?_, fun i hi => ?_⟩
  · rw [bitLibSetBit_first _ (by omega), bitLibSetBit_first _ (by omega)]
    exact h.preamble
  · rw [bitLibGetBit_setBit_of_ne (by omega), bitLibGetBit_setBit]
    split_ifs with hlast
    · rw [show i = n by omega]
    · exact h.first i (by omega)
  · rw [bitLibGetBit_setBit]
    split_ifs with hlast
    · rw [show i = n by omega]
    · rw [bitLibGetBit_setBit_of_ne (by omega)]
      exact h.second i (by omega)

lemma protocolHidGenericEncode_frame (data encodedData : Memory) :
    HidFrame data 44 (protocolHidGenericEncode data encodedData) := by
  have hrounds (n : Nat) : HidFrame data n ((List.range n).foldl (protocolHidGenericEncodeBit data)
      (Function.update encodedData 0 hidPreamble)) := by
    induction n with
    | zero =>
      exact ⟨Function.update_self _ _ _, fun _ hi => absurd hi (Nat.not_lt_zero _),
        fun _ hi => absurd hi (Nat.not_lt_zero _)⟩
    | succ n ih =>
      rw [List.range_succ, List.foldl_append]
      exact ih.succ
  exact hrounds 44

variable {data encoded : Memory}

lemma HidFrame.repeated (h : HidFrame data 44 encoded) :
    HidFrame data 44 (repeatedFrame 12 encoded) where
  preamble := h.preamble
  first i hi := by
    rw [bitLibGetBit_repeatedFrame, Nat.mod_eq_of_lt (by omega)]
    exact h.first i hi
  second i hi := by
    rw [bitLibGetBit_repeatedFrame, Nat.mod_eq_of_lt (by omega)]
    exact h.second i hi

lemma HidFrame.bitPair (h : HidFrame data 44 encoded) {i s k : Nat} (hk : k < 44)
    (hi : i = 1 + k / 4) (hs : s = 6 - k % 4 * 2) :
    encoded i >>> s &&& 0b11 = if bitLibGetBit data k then 0b10 else 0b01 := by
  have hfirst := h.first k hk
  have hsecond := h.second k hk
  rw [bitLibGetBit_eq] at hfirst hsecond
  have hbyte : (8 + 2 * k) / 8 = i := by omega
  have hbyte' : (8 + 2 * k + 1) / 8 = i := by omega
  have hbit : 7 - (8 + 2 * k) % 8 = s + 1 := by omega
  have hbit' : 7 - (8 + 2 * k + 1) % 8 = s := by omega
  rw [hbyte, hbit] at hfirst
  rw [hbyte', hbit'] at hsecond
  exact bitPair_of_bits hfirst hsecond

lemma HidFrame.canBeDecoded (h : HidFrame data 44 encoded) (hlast : encoded 12 = hidPreamble) :
    protocolHidGenericCanBeDecoded encoded = true := by
  have hnot : ¬(encoded 0 ≠ hidPreamble ∨ encoded 12 ≠ hidPreamble) := by
    rintro (hne | hne)
    · exact hne h.preamble
    · exact hne hlast
  rw [protocolHidGenericCanBeDecoded, if_neg hnot, List.all_eq_true]
  intro i hi
  rw [List.all_eq_true]
  intro n hn
  have hbyte := List.mem_range.mp hi
  have hpair := List.mem_range.mp hn
  simp only [h.bitPair (i := 1 + i) (s := n * 2) (k := 4 * i + (3 - n)) (by omega) (by omega) (by omega)]
  cases bitLibGetBit data (4 * i + (3 - n)) <;> rfl

lemma HidFrame.decode (h : HidFrame data 44 encoded) (decodedData : Memory) {i : Nat} (hi : i < 44) :
    bitLibGetBit (protocolHidGenericDecode encoded decodedData) i = bitLibGetBit data i := by
  have hround (decodedData : Memory) {k : Nat} (hk : k < 44) :
      protocolHidGenericDecodeBit encoded decodedData k =
        bitLibSetBit decodedData (0 + k) (bitLibGetBit data k) := by
    rw [protocolHidGenericDecodeBit, h.bitPair hk rfl rfl, Nat.zero_add]
    cases bitLibGetBit data k <;> rfl
  have hfold : protocolHidGenericDecode encoded decodedData = (List.range 44).foldl
      (fun decodedData k => bitLibSetBit decodedData (0 + k) (bitLibGetBit data k)) decodedData :=
    List.foldl_ext _ _ _ fun decodedData k hk => hround decodedData (List.mem_range.mp hk)
  rw [hfold, bitLibGetBit_foldl, if_pos ⟨Nat.zero_le i, by omega⟩, Nat.sub_zero]

lemma hidRoundTrip (data : Memory) : HidRoundTrip data := fun encodedData decodedData =>
  have hframe := protocolHidGenericEncode_frame data encodedData
  ⟨hframe.repeated.canBeDecoded hframe.preamble, fun _ hi =>
    ⟨hframe.decode decodedData hi, hframe.repeated.decode decodedData hi⟩⟩

/-- A card comes back from its frame, and the digits that are shown are those of its key exactly if
the number of its bits is a multiple of four. -/
theorem hidGeneric_shows_iff (data : Memory) (size : Nat)
    (hsize : protocolHidGenericDecodeProtocolSize data = some size) :
    HidShowsKey data size ∧ HidRoundTrip data ↔ size % 4 = 0 :=
  ⟨fun h => multiple_of_hidShowsKey (by have := hidProtocolSize_bounds hsize; omega) h.1,
    fun h => ⟨hidShowsKey_of_multiple data h, hidRoundTrip data⟩⟩

/-- A card with a key of 36 bits. -/
def hidCard36 : Memory := fun i => ([0x03, 0x01, 0x23, 0x45, 0x67, 0x80] : List (BitVec 8)).getD i 0

theorem hidGeneric_shows_iff_36 :
    HidShowsKey hidCard36 36 ∧ HidRoundTrip hidCard36 ↔ 36 % 4 = 0 :=
  hidGeneric_shows_iff hidCard36 36 (by decide)

/-- A card with a key of 26 bits, the last of which is one. -/
def hidCard26 : Memory := fun i => ([0x02, 0x00, 0x40, 0x00, 0x00, 0x10] : List (BitVec 8)).getD i 0

/-- Four is shown instead of one. -/
theorem not_hidGeneric_shows_26 :
    protocolHidGenericDecodeProtocolSize hidCard26 = some 26 ∧
      hexNumber (protocolHidGenericStringCatProtocolBits hidCard26 26) = 4 ∧
      bigEndian (fun k => bitLibGetBit hidCard26 (44 - 26 + k)) 26 = 1 ∧
      ¬HidShowsKey hidCard26 26 := by
  have hshown : hexNumber (protocolHidGenericStringCatProtocolBits hidCard26 26) = 4 := by decide
  have hkey : bigEndian (fun k => bitLibGetBit hidCard26 (44 - 26 + k)) 26 = 1 := by decide
  refine ⟨by decide, hshown, hkey, fun h => ?_⟩
  have hnumber := h.number
  rw [hshown, hkey] at hnumber
  exact absurd hnumber (by decide)

end FlipperZero
