import FlipperZero.BitLib.BitFields

/-!
# IoProx XSF cards

The frame has a byte of zeros, a fixed byte, the four bytes of a card and a checksum, with a framing
bit behind each of them.
-/

namespace FlipperZero

open Foundation

/-! ### The protocol -/

def protocolIoProxXsfComputeChecksum (data : Memory) : BitVec 8 :=
  0xFF - (List.range 5).foldl (fun checksum i => checksum + bitLibGetBits data (9 * (i + 1)) 8) 0

def protocolIoProxXsfCanBeDecoded (encodedData : Memory) : Bool :=
  if encodedData 0 ≠ 0b00000000 then false
  else if encodedData 1 >>> 6 ≠ 0b01 then false
  else if !(encodedData 2).getLsbD 6 then false
  else if !(encodedData 3).getLsbD 5 then false
  else if !(encodedData 4).getLsbD 4 then false
  else if !(encodedData 5).getLsbD 3 then false
  else if !(encodedData 6).getLsbD 2 then false
  else if !(encodedData 7).getLsbD 1 then false
  else if !(encodedData 7).getLsbD 0 then false
  else
    let checksum := protocolIoProxXsfComputeChecksum encodedData
    let checkval := bitLibGetBits encodedData 54 8
    if checksum ≠ checkval then false else true

def protocolIoProxXsfDecode (encodedData decodedData : Memory) : Memory :=
  let decodedData := Function.update decodedData 0 (bitLibGetBits encodedData 18 8)
  let decodedData := Function.update decodedData 1 (bitLibGetBits encodedData 27 8)
  let decodedData := Function.update decodedData 2 (bitLibGetBits encodedData 36 8)
  Function.update decodedData 3 (bitLibGetBits encodedData 45 8)

def protocolIoProxXsfEncode (decodedData encodedData : Memory) : Option Memory := do
  let encodedData ← bitLibSetBits encodedData 0 0b00000000 8
  let encodedData := bitLibSetBit encodedData 8 false
  let encodedData ← bitLibSetBits encodedData 9 0b11110000 8
  let encodedData := bitLibSetBit encodedData 17 true
  let encodedData ← bitLibSetBits encodedData 18 (decodedData 0) 8
  let encodedData := bitLibSetBit encodedData 26 true
  let encodedData ← bitLibSetBits encodedData 27 (decodedData 1) 8
  let encodedData := bitLibSetBit encodedData 35 true
  let encodedData ← bitLibSetBits encodedData 36 (decodedData 2) 8
  let encodedData := bitLibSetBit encodedData 44 true
  let encodedData ← bitLibSetBits encodedData 45 (decodedData 3) 8
  let encodedData := bitLibSetBit encodedData 53 true
  let encodedData ← bitLibSetBits encodedData 54 (protocolIoProxXsfComputeChecksum encodedData) 8
  let encodedData := bitLibSetBit encodedData 62 true
  return bitLibSetBit encodedData 63 true

/-! ### The frame of a card -/

/-- The fields of a frame. -/
structure IoProxXsfFrame (data encoded : Memory) : Prop where
  preamble : bitLibGetBits encoded 0 8 = 0
  zero : bitLibGetBit encoded 8 = false
  fixed : bitLibGetBit encoded 9 = true
  framing : ∀ i < 5, bitLibGetBit encoded (17 + 9 * i) = true
  card : ∀ i < 4, bitLibGetBits encoded (18 + 9 * i) 8 = data i
  checksum : bitLibGetBits encoded 54 8 = protocolIoProxXsfComputeChecksum encoded
  stop : bitLibGetBit encoded 62 = true ∧ bitLibGetBit encoded 63 = true

lemma protocolIoProxXsfComputeChecksum_congr {data data' : Memory}
    (h : ∀ i < 5, bitLibGetBits data' (9 * (i + 1)) 8 = bitLibGetBits data (9 * (i + 1)) 8) :
    protocolIoProxXsfComputeChecksum data' = protocolIoProxXsfComputeChecksum data := by
  have hfields (n : Nat) (hn : n ≤ 5) (checksum : BitVec 8) :
      (List.range n).foldl (fun checksum i => checksum + bitLibGetBits data' (9 * (i + 1)) 8) checksum =
        (List.range n).foldl (fun checksum i => checksum + bitLibGetBits data (9 * (i + 1)) 8)
          checksum := by
    induction n with
    | zero => rfl
    | succ n ih =>
      rw [List.range_succ, List.foldl_append, List.foldl_append, ih (Nat.le_of_succ_le hn),
        List.foldl_cons, List.foldl_cons, List.foldl_nil, List.foldl_nil, h n hn]
  rw [protocolIoProxXsfComputeChecksum, protocolIoProxXsfComputeChecksum, hfields 5 (Nat.le_refl 5)]

lemma protocolIoProxXsfEncode_frame (data encodedData : Memory) :
    ∃ encoded, protocolIoProxXsfEncode data encodedData = some encoded ∧
      IoProxXsfFrame data encoded := by
  rw [protocolIoProxXsfEncode]
  simp only [bitLibSetBits_eq _ _ _ (by decide : 0 < 8 ∧ 8 ≤ 8), Option.bind_eq_bind,
    Option.bind_some]
  refine ⟨_, rfl, ?_, ?_, ?_, fun i hi => ?_, fun i hi => ?_, ?_, ?_, ?_⟩
  · simp (disch := omega) only [bitLibGetBits_setBit_of_disjoint, bitLibGetBits_putBits_of_disjoint,
      bitLibGetBits_putBits]
  · simp (disch := omega) only [bitLibGetBit_setBit_of_ne, bitLibGetBit_putBits_of_disjoint,
      bitLibGetBit_setBit_self]
  · simp (disch := omega) only [bitLibGetBit_setBit_of_ne, bitLibGetBit_putBits_of_disjoint]
    rw [bitLibGetBit_putBits]
    rfl
  · interval_cases i <;>
      simp (disch := omega) only [bitLibGetBit_setBit_of_ne, bitLibGetBit_putBits_of_disjoint,
        bitLibGetBit_setBit_self]
  · interval_cases i <;>
      simp (disch := omega) only [bitLibGetBits_setBit_of_disjoint,
        bitLibGetBits_putBits_of_disjoint, bitLibGetBits_putBits]
  · simp (disch := omega) only [bitLibGetBits_setBit_of_disjoint, bitLibGetBits_putBits]
    apply protocolIoProxXsfComputeChecksum_congr
    intro i hi
    simp (disch := omega) only [bitLibGetBits_setBit_of_disjoint, bitLibGetBits_putBits_of_disjoint]
  · simp (disch := omega) only [bitLibGetBit_setBit_of_ne, bitLibGetBit_setBit_self]
  · simp (disch := omega) only [bitLibGetBit_setBit_self]

lemma IoProxXsfFrame.canBeDecoded {data encoded : Memory} (h : IoProxXsfFrame data encoded) :
    protocolIoProxXsfCanBeDecoded encoded = true := by
  have hbit (q : Nat) : (encoded (q / 8)).getLsbD (7 - q % 8) = bitLibGetBit encoded q :=
    (bitLibGetBit_eq encoded q).symm
  have hpreamble : encoded 0 = 0 := (bitLibGetBits_byte encoded 0).symm.trans h.preamble
  have hfixed : encoded 1 >>> 6 = 1 := by
    apply BitVec.eq_of_getLsbD_eq
    intro i hi
    rw [BitVec.getLsbD_ushiftRight]
    match i with
    | 0 => exact (hbit 9).trans h.fixed
    | 1 => exact (hbit 8).trans h.zero
    | i + 2 =>
      rw [BitVec.getLsbD_of_ge _ _ (by omega)]
      simp
  have h17 : (encoded 2).getLsbD 6 = true := (hbit 17).trans (h.framing 0 (by decide))
  have h26 : (encoded 3).getLsbD 5 = true := (hbit 26).trans (h.framing 1 (by decide))
  have h35 : (encoded 4).getLsbD 4 = true := (hbit 35).trans (h.framing 2 (by decide))
  have h44 : (encoded 5).getLsbD 3 = true := (hbit 44).trans (h.framing 3 (by decide))
  have h53 : (encoded 6).getLsbD 2 = true := (hbit 53).trans (h.framing 4 (by decide))
  have h62 : (encoded 7).getLsbD 1 = true := (hbit 62).trans h.stop.1
  have h63 : (encoded 7).getLsbD 0 = true := (hbit 63).trans h.stop.2
  rw [protocolIoProxXsfCanBeDecoded, hpreamble, hfixed, h17, h26, h35, h44, h53, h62, h63, h.checksum]
  simp

lemma IoProxXsfFrame.decode {data encoded : Memory} (h : IoProxXsfFrame data encoded)
    (decoded : Memory) {i : Nat} (hi : i < 4) : protocolIoProxXsfDecode encoded decoded i = data i := by
  rw [protocolIoProxXsfDecode]
  match i, hi with
  | 0, _ => exact h.card 0 (by decide)
  | 1, _ => exact h.card 1 (by decide)
  | 2, _ => exact h.card 2 (by decide)
  | 3, _ => exact h.card 3 (by decide)

end FlipperZero
