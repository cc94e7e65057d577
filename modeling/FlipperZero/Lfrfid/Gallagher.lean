import FlipperZero.BitLib.BitFields

/-!
# Gallagher cards

The fields of a card are spread over eight bytes, which are put through a table. Behind each of them
the frame has a bit that is not looked at. The decoder waits for a frame with its checksum and the
header of the next one.
-/

namespace FlipperZero

open Foundation

/-! ### The tables -/

/-- The `lut` of `protocol_gallagher_scramble`. -/
def gallagherScrambleLut : List (BitVec 8) := [
    0xa3, 0xb0, 0x80, 0xc6, 0xb2, 0xf4, 0x5c, 0x6c, 0x81, 0xf1, 0xbb, 0xeb, 0x55, 0x67, 0x3c,
    0x05, 0x1a, 0x0e, 0x61, 0xf6, 0x22, 0xce, 0xaa, 0x8f, 0xbd, 0x3b, 0x1f, 0x5e, 0x44, 0x04,
    0x51, 0x2e, 0x4d, 0x9a, 0x84, 0xea, 0xf8, 0x66, 0x74, 0x29, 0x7f, 0x70, 0xd8, 0x31, 0x7a,
    0x6d, 0xa4, 0x00, 0x82, 0xb9, 0x5f, 0xb4, 0x16, 0xab, 0xff, 0xc2, 0x39, 0xdc, 0x19, 0x65,
    0x57, 0x7c, 0x20, 0xfa, 0x5a, 0x49, 0x13, 0xd0, 0xfb, 0xa8, 0x91, 0x73, 0xb1, 0x33, 0x18,
    0xbe, 0x21, 0x72, 0x48, 0xb6, 0xdb, 0xa0, 0x5d, 0xcc, 0xe6, 0x17, 0x27, 0xe5, 0xd4, 0x53,
    0x42, 0xf3, 0xdd, 0x7b, 0x24, 0xac, 0x2b, 0x58, 0x1e, 0xa7, 0xe7, 0x86, 0x40, 0xd3, 0x98,
    0x97, 0x71, 0xcb, 0x3a, 0x0f, 0x01, 0x9b, 0x6e, 0x1b, 0xfc, 0x34, 0xa6, 0xda, 0x07, 0x0c,
    0xae, 0x37, 0xca, 0x54, 0xfd, 0x26, 0xfe, 0x0a, 0x45, 0xa2, 0x2a, 0xc4, 0x12, 0x0d, 0xf5,
    0x4f, 0x69, 0xe0, 0x8a, 0x77, 0x60, 0x3f, 0x99, 0x95, 0xd2, 0x38, 0x36, 0x62, 0xb7, 0x32,
    0x7e, 0x79, 0xc0, 0x46, 0x93, 0x2f, 0xa5, 0xba, 0x5b, 0xaf, 0x52, 0x1d, 0xc3, 0x75, 0xcf,
    0xd6, 0x4c, 0x83, 0xe8, 0x3d, 0x30, 0x4e, 0xbc, 0x08, 0x2d, 0x09, 0x06, 0xd9, 0x25, 0x9e,
    0x89, 0xf2, 0x96, 0x88, 0xc1, 0x8c, 0x94, 0x0b, 0x28, 0xf0, 0x47, 0x63, 0xd5, 0xb3, 0x68,
    0x56, 0x9c, 0xf9, 0x6f, 0x41, 0x50, 0x85, 0x8b, 0x9d, 0x59, 0xbf, 0x9f, 0xe2, 0x8e, 0x6a,
    0x11, 0x23, 0xa1, 0xcd, 0xb5, 0x7d, 0xc7, 0xa9, 0xc8, 0xef, 0xdf, 0x02, 0xb8, 0x03, 0x6b,
    0x35, 0x3e, 0x2c, 0x76, 0xc9, 0xde, 0x1c, 0x4b, 0xd1, 0xed, 0x14, 0xc5, 0xad, 0xe9, 0x64,
    0x4a, 0xec, 0x8d, 0xf7, 0x10, 0x43, 0x78, 0x15, 0x87, 0xe4, 0xd7, 0x92, 0xe1, 0xee, 0xe3,
    0x90]

/-- The `lut` of `protocol_gallagher_descramble`. -/
def gallagherDescrambleLut : List (BitVec 8) := [
    0x2f, 0x6e, 0xdd, 0xdf, 0x1d, 0x0f, 0xb0, 0x76, 0xad, 0xaf, 0x7f, 0xbb, 0x77, 0x85, 0x11,
    0x6d, 0xf4, 0xd2, 0x84, 0x42, 0xeb, 0xf7, 0x34, 0x55, 0x4a, 0x3a, 0x10, 0x71, 0xe7, 0xa1,
    0x62, 0x1a, 0x3e, 0x4c, 0x14, 0xd3, 0x5e, 0xb2, 0x7d, 0x56, 0xbc, 0x27, 0x82, 0x60, 0xe3,
    0xae, 0x1f, 0x9b, 0xaa, 0x2b, 0x95, 0x49, 0x73, 0xe1, 0x92, 0x79, 0x91, 0x38, 0x6c, 0x19,
    0x0e, 0xa9, 0xe2, 0x8d, 0x66, 0xc7, 0x5a, 0xf5, 0x1c, 0x80, 0x99, 0xbe, 0x4e, 0x41, 0xf0,
    0xe8, 0xa6, 0x20, 0xab, 0x87, 0xc8, 0x1e, 0xa0, 0x59, 0x7b, 0x0c, 0xc3, 0x3c, 0x61, 0xcc,
    0x40, 0x9e, 0x06, 0x52, 0x1b, 0x32, 0x8c, 0x12, 0x93, 0xbf, 0xef, 0x3b, 0x25, 0x0d, 0xc2,
    0x88, 0xd1, 0xe0, 0x07, 0x2d, 0x70, 0xc6, 0x29, 0x6a, 0x4d, 0x47, 0x26, 0xa3, 0xe4, 0x8b,
    0xf6, 0x97, 0x2c, 0x5d, 0x3d, 0xd7, 0x96, 0x28, 0x02, 0x08, 0x30, 0xa7, 0x22, 0xc9, 0x65,
    0xf8, 0xb7, 0xb4, 0x8a, 0xca, 0xb9, 0xf2, 0xd0, 0x17, 0xff, 0x46, 0xfb, 0x9a, 0xba, 0x8f,
    0xb6, 0x69, 0x68, 0x8e, 0x21, 0x6f, 0xc4, 0xcb, 0xb3, 0xce, 0x51, 0xd4, 0x81, 0x00, 0x2e,
    0x9c, 0x74, 0x63, 0x45, 0xd9, 0x16, 0x35, 0x5f, 0xed, 0x78, 0x9f, 0x01, 0x48, 0x04, 0xc1,
    0x33, 0xd6, 0x4f, 0x94, 0xde, 0x31, 0x9d, 0x0a, 0xac, 0x18, 0x4b, 0xcd, 0x98, 0xb8, 0x37,
    0xa2, 0x83, 0xec, 0x03, 0xd8, 0xda, 0xe5, 0x7a, 0x6b, 0x53, 0xd5, 0x15, 0xa4, 0x43, 0xe9,
    0x90, 0x67, 0x58, 0xc0, 0xa5, 0xfa, 0x2a, 0xb1, 0x75, 0x50, 0x39, 0x5c, 0xe6, 0xdc, 0x89,
    0xfc, 0xcf, 0xfe, 0xf9, 0x57, 0x54, 0x64, 0xa8, 0xee, 0x23, 0x0b, 0xf1, 0xea, 0xfd, 0xdb,
    0xbd, 0x09, 0xb5, 0x5b, 0x05, 0x86, 0x13, 0xf3, 0x24, 0xc5, 0x3f, 0x44, 0x72, 0x7c, 0x7e,
    0x36]

/-- The loop of `protocol_gallagher_scramble` and of `protocol_gallagher_descramble`, on the bytes from
an address on. -/
def gallagherReplace (lut : List (BitVec 8)) (data : Memory) (start length : Nat) : Memory :=
  (List.range length).foldl (fun data i =>
    Function.update data (start + i) (lut.getD (data (start + i)).toNat 0)) data

def protocolGallagherScramble (data : Memory) (start length : Nat) : Memory :=
  gallagherReplace gallagherScrambleLut data start length

def protocolGallagherDescramble (data : Memory) (start length : Nat) : Memory :=
  gallagherReplace gallagherDescrambleLut data start length

/-! ### The protocol -/

/-- `ProtocolGallagher`, without what the levels are made of. -/
structure ProtocolGallagher where
  data : Memory
  encodedData : Memory

/-- The facility code of `protocol_gallagher_decode`. -/
def gallagherDecodeFacility (encodedData : Memory) : BitVec 32 :=
  (encodedData 7 &&& 0x0F).setWidth 32 <<< 12 ||| (encodedData 3).setWidth 32 <<< 4 |||
    ((encodedData 9 >>> 4) &&& 0x0F).setWidth 32

/-- The card number of `protocol_gallagher_decode`. -/
def gallagherDecodeCard (encodedData : Memory) : BitVec 32 :=
  (encodedData 2).setWidth 32 <<< 16 ||| (encodedData 6 &&& 0x1F).setWidth 32 <<< 11 |||
    (encodedData 4).setWidth 32 <<< 3 ||| ((encodedData 5 &&& 0xE0) >>> 5).setWidth 32

def protocolGallagherDecode (protocol : ProtocolGallagher) : Option ProtocolGallagher := do
  let (encodedData, _) ← bitLibRemoveBitEveryNth protocol.encodedData 16 (9 * 8) 9
  let encodedData := protocolGallagherDescramble encodedData 2 8
  let data ← bitLibSetBits protocol.data 0 ((encodedData 5 &&& 0x1E) >>> 1) 4
  let data ← bitLibSetBits data 4 (encodedData 9 &&& 0x0F) 4
  let fc := gallagherDecodeFacility encodedData
  let data := Function.update data 3 (fc.setWidth 8)
  let data := Function.update data 2 ((fc >>> 8).setWidth 8)
  let data := Function.update data 1 ((fc >>> 16).setWidth 8)
  let card := gallagherDecodeCard encodedData
  let data := Function.update data 7 (card.setWidth 8)
  let data := Function.update data 6 ((card >>> 8).setWidth 8)
  let data := Function.update data 5 ((card >>> 16).setWidth 8)
  let data := Function.update data 4 ((card >>> 24).setWidth 8)
  return { protocol with data := data, encodedData := encodedData }

/-- The checksum of some bytes. -/
def gallagherChecksum (payload : List (BitVec 8)) : BitVec 8 :=
  bitLibCrc8 payload 0x7 0x2c false false 0x00

def protocolGallagherCanBeDecoded (protocol : ProtocolGallagher) : Bool :=
  if bitLibGetBits16 protocol.encodedData 0 16 ≠ 0b0111111111101010 then false
  else if bitLibGetBits16 protocol.encodedData 96 16 ≠ 0b0111111111101010 then false
  else
    let checksumArr := (List.range 8).map fun i => bitLibGetBits protocol.encodedData (16 + 9 * i) 8
    let crc := bitLibGetBits protocol.encodedData (16 + 9 * 8) 8
    let calcCrc := gallagherChecksum checksumArr
    if crc ≠ calcCrc then false else true

/-- The payload of `protocol_gallagher_encoder_start` before it is scrambled. -/
def gallagherPayload (rc il : BitVec 8) (fc cn : BitVec 32) : Memory
  | 0 => ((cn &&& 0xffffff) >>> 16).setWidth 8
  | 1 => ((fc &&& 0xfff) >>> 4).setWidth 8
  | 2 => ((cn &&& 0x7ff) >>> 3).setWidth 8
  | 3 => ((cn &&& 0x7) <<< 5 ||| (rc.setWidth 32 &&& 0xf) <<< 1).setWidth 8
  | 4 => ((cn &&& 0xffff) >>> 11).setWidth 8
  | 5 => ((fc &&& 0xffff) >>> 12).setWidth 8
  | 7 => ((fc &&& 0xf) <<< 4 ||| (il.setWidth 32 &&& 0xf)).setWidth 8
  | _ => 0

/-- A round of `protocol_gallagher_encoder_start`. -/
def protocolGallagherEncodeByte (payload encodedData : Memory) (i : Nat) : Option Memory := do
  let encodedData ← bitLibSetBits encodedData (16 + i * 9) (payload i) 8
  return bitLibSetBit encodedData (16 + i * 9 + 8) !(payload i).getLsbD 0

def protocolGallagherEncoderStart (protocol : ProtocolGallagher) : Option ProtocolGallagher := do
  let encodedData ← bitLibSetBits protocol.encodedData 0 0b01111111 8
  let encodedData ← bitLibSetBits encodedData 8 0b11101010 8
  let rc := bitLibGetBits protocol.data 0 4
  let il := bitLibGetBits protocol.data 4 4
  let fc ← bitLibGetBits32 protocol.data 8 24
  let cn ← bitLibGetBits32 protocol.data 32 32
  let payload := protocolGallagherScramble (gallagherPayload rc il fc cn) 0 8
  let encodedData ← (List.range 8).foldlM (protocolGallagherEncodeByte payload) encodedData
  let crc := gallagherChecksum (bytesOf payload 8)
  let encodedData ← bitLibSetBits encodedData (16 + 9 * 8) crc 8
  return { protocol with encodedData := encodedData }

/-! ### The tables undo each other -/

lemma gallagherReplace_apply (lut : List (BitVec 8)) (data : Memory) (start length j : Nat) :
    gallagherReplace lut data start length j =
      if start ≤ j ∧ j < start + length then lut.getD (data j).toNat 0 else data j := by
  rw [gallagherReplace]
  induction length with
  | zero => rw [List.range_zero, List.foldl_nil, if_neg (by omega)]
  | succ length ih =>
    rw [List.range_succ, List.foldl_append, List.foldl_cons, List.foldl_nil, Function.update_apply]
    by_cases hlast : j = start + length
    · rw [if_pos hlast, if_pos (by omega), ← hlast, ih, if_neg (by omega)]
    · rw [if_neg hlast, ih]
      exact if_congr (by omega) rfl rfl

lemma gallagherDescrambleLut_scramble (byte : BitVec 8) :
    gallagherDescrambleLut.getD (gallagherScrambleLut.getD byte.toNat 0).toNat 0 = byte := by
  have htables : ∀ i < 256, gallagherDescrambleLut.getD (gallagherScrambleLut.getD i 0).toNat 0 =
      BitVec.ofNat 8 i := by
    decide +kernel
  rw [htables byte.toNat byte.isLt, BitVec.ofNat_toNat, BitVec.setWidth_eq]

/-! ### The fields -/

/-- The facility code, of which sixteen bits are encoded. -/
def gallagherFacility (data : Memory) : Nat :=
  (data 1).toNat * 2 ^ 16 + (data 2).toNat * 2 ^ 8 + (data 3).toNat

/-- The card number, of which 24 bits are encoded. -/
def gallagherCard (data : Memory) : Nat :=
  (data 4).toNat * 2 ^ 24 + (data 5).toNat * 2 ^ 16 + (data 6).toNat * 2 ^ 8 + (data 7).toNat

section Fields

variable {rc il : BitVec 8} {fc cn : BitVec 32} {encodedData : Memory}

lemma gallagherDecodeFacility_payload
    (h : ∀ i < 8, encodedData (2 + i) = gallagherPayload rc il fc cn i) :
    gallagherDecodeFacility encodedData = fc &&& 0xffff := by
  have h3 : encodedData 3 = ((fc &&& 0xfff) >>> 4).setWidth 8 := h 1 (by decide)
  have h7 : encodedData 7 = ((fc &&& 0xffff) >>> 12).setWidth 8 := h 5 (by decide)
  have h9 : encodedData 9 = ((fc &&& 0xf) <<< 4 ||| (il.setWidth 32 &&& 0xf)).setWidth 8 :=
    h 7 (by decide)
  rw [gallagherDecodeFacility, h3, h7, h9]
  apply BitVec.eq_of_getLsbD_eq
  intro i hi
  interval_cases i <;> simp

lemma gallagherDecodeCard_payload
    (h : ∀ i < 8, encodedData (2 + i) = gallagherPayload rc il fc cn i) :
    gallagherDecodeCard encodedData = cn &&& 0xffffff := by
  have h2 : encodedData 2 = ((cn &&& 0xffffff) >>> 16).setWidth 8 := h 0 (by decide)
  have h4 : encodedData 4 = ((cn &&& 0x7ff) >>> 3).setWidth 8 := h 2 (by decide)
  have h5 : encodedData 5 = ((cn &&& 0x7) <<< 5 ||| (rc.setWidth 32 &&& 0xf) <<< 1).setWidth 8 :=
    h 3 (by decide)
  have h6 : encodedData 6 = ((cn &&& 0xffff) >>> 11).setWidth 8 := h 4 (by decide)
  rw [gallagherDecodeCard, h2, h4, h5, h6]
  apply BitVec.eq_of_getLsbD_eq
  intro i hi
  interval_cases i <;> simp

lemma gallagherDecode_nibbles
    (h : ∀ i < 8, encodedData (2 + i) = gallagherPayload rc il fc cn i) {j : Nat} (hj : j < 4) :
    ((encodedData 5 &&& 0x1E) >>> 1).getLsbD j = rc.getLsbD j ∧
      (encodedData 9 &&& 0x0F).getLsbD j = il.getLsbD j := by
  have h5 : encodedData 5 = ((cn &&& 0x7) <<< 5 ||| (rc.setWidth 32 &&& 0xf) <<< 1).setWidth 8 :=
    h 3 (by decide)
  have h9 : encodedData 9 = ((fc &&& 0xf) <<< 4 ||| (il.setWidth 32 &&& 0xf)).setWidth 8 :=
    h 7 (by decide)
  rw [h5, h9]
  interval_cases j <;> simp

end Fields

/-! ### The frame of a card -/

/-- The bytes of a frame, as far as they have been written. -/
structure GallagherFields (payload : Memory) (n : Nat) (encoded : Memory) : Prop where
  first : bitLibGetBits encoded 0 8 = 0b01111111
  second : bitLibGetBits encoded 8 8 = 0b11101010
  payload : ∀ i < n, bitLibGetBits encoded (16 + 9 * i) 8 = payload i

lemma GallagherFields.succ {payload encoded : Memory} {n : Nat}
    (h : GallagherFields payload n encoded) :
    ∃ encoded', protocolGallagherEncodeByte payload encoded n = some encoded' ∧
      GallagherFields payload (n + 1) encoded' := by
  rw [protocolGallagherEncodeByte, bitLibSetBits_eq _ _ _ (by decide)]
  refine ⟨_, rfl, ?_, ?_, fun i hi => ?_⟩
  · rw [bitLibGetBits_setBit_of_disjoint (Nat.le_refl 8) (by omega),
      bitLibGetBits_putBits_of_disjoint (Nat.le_refl 8) (by omega), h.first]
  · rw [bitLibGetBits_setBit_of_disjoint (Nat.le_refl 8) (by omega),
      bitLibGetBits_putBits_of_disjoint (Nat.le_refl 8) (by omega), h.second]
  · rw [bitLibGetBits_setBit_of_disjoint (Nat.le_refl 8) (by omega)]
    by_cases hlast : i = n
    · rw [hlast, Nat.mul_comm 9, bitLibGetBits_putBits]
    · rw [bitLibGetBits_putBits_of_disjoint (Nat.le_refl 8) (by omega), h.payload i (by omega)]

/-- A frame with the scrambled bytes of a card. -/
structure GallagherFrame (data : Memory) (encoded : Memory) : Prop where
  fields : ∃ rc il fc cn payload, rc = bitLibGetBits data 0 4 ∧ il = bitLibGetBits data 4 4 ∧
    bitLibGetBits32 data 8 24 = some fc ∧ bitLibGetBits32 data 32 32 = some cn ∧
    payload = protocolGallagherScramble (gallagherPayload rc il fc cn) 0 8 ∧
    GallagherFields payload 8 encoded ∧
    bitLibGetBits encoded 88 8 = gallagherChecksum (bytesOf payload 8)

lemma protocolGallagherEncoderStart_frame (protocol : ProtocolGallagher) :
    ∃ encoded, protocolGallagherEncoderStart protocol = some { protocol with encodedData := encoded } ∧
      GallagherFrame protocol.data encoded := by
  have hfc := bitLibGetBits32_eq protocol.data 8 (by decide : 24 ≤ 32)
  have hcn := bitLibGetBits32_eq protocol.data 32 (Nat.le_refl 32)
  obtain ⟨fc, hfacility⟩ : ∃ fc, bitLibGetBits32 protocol.data 8 24 = some fc := ⟨_, hfc⟩
  obtain ⟨cn, hcard⟩ : ∃ cn, bitLibGetBits32 protocol.data 32 32 = some cn := ⟨_, hcn⟩
  obtain ⟨payload, hpayload⟩ : ∃ payload, payload = protocolGallagherScramble (gallagherPayload
      (bitLibGetBits protocol.data 0 4) (bitLibGetBits protocol.data 4 4) fc cn) 0 8 := ⟨_, rfl⟩
  have hrounds (n : Nat) : ∃ encoded, (List.range n).foldlM (protocolGallagherEncodeByte payload)
      (bitLibPutBits (bitLibPutBits protocol.encodedData 0 0b01111111 8) 8 0b11101010 8) =
        some encoded ∧ GallagherFields payload n encoded := by
    induction n with
    | zero =>
      refine ⟨_, rfl, ?_, bitLibGetBits_putBits _ 8 _, fun _ hi => absurd hi (Nat.not_lt_zero _)⟩
      rw [bitLibGetBits_putBits_of_disjoint (Nat.le_refl 8) (by omega), bitLibGetBits_putBits]
    | succ n ih =>
      obtain ⟨encoded, hencoded, hfields⟩ := ih
      obtain ⟨encoded', hround, hfields'⟩ := hfields.succ
      refine ⟨encoded', ?_, hfields'⟩
      rw [List.range_succ, List.foldlM_append, hencoded, Option.bind_eq_bind, Option.bind_some,
        List.foldlM_cons, hround]
      rfl
  obtain ⟨encoded, hencoded, hfields⟩ := hrounds 8
  refine ⟨bitLibPutBits encoded (16 + 9 * 8) (gallagherChecksum (bytesOf payload 8)) 8, ?_,
    ⟨_, _, fc, cn, payload, rfl, rfl, hfacility, hcard, hpayload, ⟨?_, ?_, fun i hi => ?_⟩,
      bitLibGetBits_putBits _ _ _⟩⟩
  · rw [protocolGallagherEncoderStart]
    simp only [bitLibSetBits_eq _ _ _ (by decide : 0 < 8 ∧ 8 ≤ 8), hfacility, hcard, ← hpayload,
      hencoded, Option.bind_eq_bind, Option.bind_some]
    rfl
  · rw [bitLibGetBits_putBits_of_disjoint (Nat.le_refl 8) (by omega), hfields.first]
  · rw [bitLibGetBits_putBits_of_disjoint (Nat.le_refl 8) (by omega), hfields.second]
  · rw [bitLibGetBits_putBits_of_disjoint (Nat.le_refl 8) (by omega), hfields.payload i hi]

/-! ### The round trip -/

variable {protocol : ProtocolGallagher} {data encoded : Memory}

lemma GallagherFrame.canBeDecoded (h : GallagherFrame data encoded)
    (hprotocol : protocol.encodedData = repeatedFrame 12 encoded) :
    protocolGallagherCanBeDecoded protocol = true := by
  obtain ⟨-, -, -, -, payload, -, -, -, -, -, hfields, hchecksum⟩ := h.fields
  have hread (position : Nat) (hposition : position % (8 * 12) + 8 ≤ 8 * 12) :
      bitLibGetBits protocol.encodedData position 8 =
        bitLibGetBits encoded (position % (8 * 12)) 8 := by
    rw [hprotocol, bitLibGetBits_repeatedFrame encoded (Nat.le_refl 8) hposition]
  have hheader (position : Nat) (hposition : position % (8 * 12) = 0) :
      bitLibGetBits16 protocol.encodedData position 16 = 0b0111111111101010 := by
    have hnext : (position + 8) % (8 * 12) = 8 := by omega
    rw [bitLibGetBits16, if_neg (by decide), hread position (by omega), hread (position + 8) (by omega),
      hposition, hnext, hfields.first, hfields.second]
    decide
  have hpayload : ((List.range 8).map fun i => bitLibGetBits protocol.encodedData (16 + 9 * i) 8) =
      bytesOf payload 8 := by
    apply List.map_congr_left
    intro i hi
    have hlt : i < 8 := List.mem_range.mp hi
    have hmod : (16 + 9 * i) % (8 * 12) = 16 + 9 * i := Nat.mod_eq_of_lt (by omega)
    rw [hread _ (by omega), hmod, hfields.payload i hlt]
  rw [protocolGallagherCanBeDecoded, hheader 0 rfl, hheader 96 rfl, hpayload,
    hread _ (by decide), hchecksum]
  simp

lemma GallagherFrame.decode (h : GallagherFrame data encoded)
    (hprotocol : protocol.encodedData = repeatedFrame 12 encoded)
    (hfacility : gallagherFacility data < 2 ^ 16) (hcard : gallagherCard data < 2 ^ 24) :
    ∃ decoded, protocolGallagherDecode protocol = some decoded ∧
      ∀ i < 8, decoded.data i = data i := by
  obtain ⟨_, _, fc, cn, payload, rfl, rfl, hfc, hcn, hpayload, hfields, -⟩ := h.fields
  rw [bitLibGetBits32_eq _ _ (by decide)] at hfc hcn
  have hfcBit (i : Nat) (hi : i < 24) : fc.getLsbD i = (data (3 - i / 8)).getLsbD (i % 8) := by
    have hdiv : (8 + (24 - 1 - i)) / 8 = 3 - i / 8 := by omega
    have hmod : 7 - (8 + (24 - 1 - i)) % 8 = i % 8 := by omega
    rw [← Option.some.inj hfc, getLsbD_packed _ (by omega), decide_eq_true hi, Bool.true_and,
      bitLibGetBit_eq, hdiv, hmod]
  have hcnBit (i : Nat) (hi : i < 32) : cn.getLsbD i = (data (7 - i / 8)).getLsbD (i % 8) := by
    have hdiv : (32 + (32 - 1 - i)) / 8 = 7 - i / 8 := by omega
    have hmod : 7 - (32 + (32 - 1 - i)) % 8 = i % 8 := by omega
    rw [← Option.some.inj hcn, getLsbD_packed _ hi, decide_eq_true hi, Bool.true_and,
      bitLibGetBit_eq, hdiv, hmod]
  have hone : data 1 = 0 := BitVec.eq_of_toNat_eq (by
    rw [gallagherFacility] at hfacility
    show (data 1).toNat = 0
    omega)
  have hfour : data 4 = 0 := BitVec.eq_of_toNat_eq (by
    rw [gallagherCard] at hcard
    show (data 4).toNat = 0
    omega)
  obtain ⟨removed, hremoved, hbits⟩ := bitLibRemoveBitEveryNth_bits protocol.encodedData 16 (9 * 8)
    (n := 9) (by decide)
  have hkept : kept (9 : BitVec 8).toNat (9 * 8 : BitVec 8).toNat = 64 := by decide
  have hnine : (9 : BitVec 8).toNat = 9 := rfl
  rw [hkept, hnine] at hbits
  have hbytes (i : Nat) (hi : i < 8) : removed (2 + i) = payload i := by
    apply byte_eq_of_bits
    intro k hk
    have hindex : 16 + keptIndex 9 (8 * (2 + i) + k - 16) = 16 + 9 * i + k := by
      rw [keptIndex]
      omega
    rw [hbits, if_pos (by omega), hindex, hprotocol, bitLibGetBit_repeatedFrame,
      Nat.mod_eq_of_lt (by omega), bitLibGetBit_of_getBits (hfields.payload i hi) hk]
  obtain ⟨plain, hlist⟩ : ∃ plain, plain = protocolGallagherDescramble removed 2 8 := ⟨_, rfl⟩
  have hplain (i : Nat) (hi : i < 8) : plain (2 + i) =
      gallagherPayload (bitLibGetBits data 0 4) (bitLibGetBits data 4 4) fc cn i := by
    rw [hlist, protocolGallagherDescramble, gallagherReplace_apply, if_pos (by omega), hbytes i hi,
      hpayload, protocolGallagherScramble, gallagherReplace_apply, if_pos (by omega),
      gallagherDescrambleLut_scramble]
  obtain ⟨data', hset, hdata'⟩ := bitLibSetBits_cases protocol.data 0 ((plain 5 &&& 0x1E) >>> 1)
    (by decide : 0 < 4) (by decide)
  obtain ⟨data'', hset', hdata''⟩ := bitLibSetBits_cases data' 4 (plain 9 &&& 0x0F)
    (by decide : 0 < 4) (by decide)
  have hfirst : data'' 0 = data 0 := by
    apply byte_eq_of_bits
    intro k hk
    have hnibble (position : Nat) (hposition : position + (k - position) = k ∧ k - position < 4)
        (hlow : position / 8 = 0) :
        (bitLibGetBits data position 4).getLsbD (4 - 1 - (k - position)) = (data 0).getLsbD (7 - k) := by
      have hindex : position + (4 - 1 - (4 - 1 - (k - position))) = k := by omega
      have hdiv : k / 8 = 0 := by omega
      have hmod : k % 8 = k := by omega
      rw [getLsbD_bitLibGetBits _ _ (by decide), decide_eq_true (by omega), Bool.true_and, hindex,
        bitLibGetBit_eq, hdiv, hmod]
    rw [Nat.mul_zero, Nat.zero_add, hdata'', hdata']
    by_cases hhigh : 4 ≤ k
    · rw [if_pos (by omega), (gallagherDecode_nibbles hplain (by omega)).2,
        hnibble 4 (by omega) rfl]
    · rw [if_neg (by omega), if_pos (by omega), (gallagherDecode_nibbles hplain (by omega)).1,
        hnibble 0 (by omega) rfl]
  rw [protocolGallagherDecode, hremoved]
  dsimp only [Option.bind_eq_bind, Option.bind_some]
  rw [← hlist, hset, Option.bind_some, hset', Option.bind_some, gallagherDecodeFacility_payload hplain,
    gallagherDecodeCard_payload hplain]
  have hfacilityMask : ∀ j < 32, (0xffff : BitVec 32).getLsbD j = decide (j < 16) := by decide
  have hcardMask : ∀ j < 32, (0xffffff : BitVec 32).getLsbD j = decide (j < 24) := by decide
  have hfcByte (m : Nat) (hm : m < 3) : ((fc &&& 0xffff) >>> (8 * m)).setWidth 8 = data (3 - m) := by
    apply BitVec.eq_of_getLsbD_eq
    intro j hj
    have hdiv : (8 * m + j) / 8 = m := by omega
    have hmod : (8 * m + j) % 8 = j := by omega
    rw [BitVec.getLsbD_setWidth, decide_eq_true hj, Bool.true_and, BitVec.getLsbD_ushiftRight,
      BitVec.getLsbD_and, hfcBit _ (by omega), hfacilityMask _ (by omega), hdiv, hmod]
    by_cases htop : m = 2
    · rw [htop, decide_eq_false (by omega), Bool.and_false, hone]
      simp
    · rw [decide_eq_true (by omega), Bool.and_true]
  have hcnByte (m : Nat) (hm : m < 4) : ((cn &&& 0xffffff) >>> (8 * m)).setWidth 8 = data (7 - m) := by
    apply BitVec.eq_of_getLsbD_eq
    intro j hj
    have hdiv : (8 * m + j) / 8 = m := by omega
    have hmod : (8 * m + j) % 8 = j := by omega
    rw [BitVec.getLsbD_setWidth, decide_eq_true hj, Bool.true_and, BitVec.getLsbD_ushiftRight,
      BitVec.getLsbD_and, hcnBit _ (by omega), hcardMask _ (by omega), hdiv, hmod]
    by_cases htop : m = 3
    · rw [htop, decide_eq_false (by omega), Bool.and_false, hfour]
      simp
    · rw [decide_eq_true (by omega), Bool.and_true]
  have hfcLow : (fc &&& 0xffff).setWidth 8 = data 3 := hfcByte 0 (by decide)
  have hcnLow : (cn &&& 0xffffff).setWidth 8 = data 7 := hcnByte 0 (by decide)
  refine ⟨_, rfl, fun i hi => ?_⟩
  dsimp only
  rw [hfcLow, hcnLow, hfcByte 1 (by decide), hfcByte 2 (by decide), hcnByte 1 (by decide),
    hcnByte 2 (by decide), hcnByte 3 (by decide)]
  interval_cases i
  · exact hfirst
  all_goals rfl

end FlipperZero
