import FlipperZero.BitLib.BitFields

/-!
# FDX-B tags

The frame has eleven bits of a header and thirteen bytes, each behind a control bit. Two of the bytes
are a checksum of the first eight. The decoder waits for a frame and the header of the next one.
-/

namespace FlipperZero

open Foundation

/-! ### The protocol -/

structure ProtocolFDXB where
  lastShort : Bool
  lastLevel : Bool
  encodedIndex : Nat
  encodedData : Memory
  data : Memory

def fdxBChecksum (data : Memory) : BitVec 16 :=
  bitLibCrc16 (bytesOf data 8) 0x1021 0x0000 false false 0x0000

/-- `protocol_fdx_b_can_be_decoded`. The array for the checksum stands on the stack. -/
def protocolFdxBCanBeDecoded (protocol : ProtocolFDXB) (stack : Memory) : Option Bool :=
  if bitLibGetBits16 protocol.encodedData 0 11 ≠ 0b10000000000 then some false
  else if bitLibGetBits16 protocol.encodedData 128 11 ≠ 0b10000000000 then some false
  else do
    let control ← bitLibTestParity protocol.encodedData 3 (13 * 9) .always1 9
    if !control then return false
    let crcData := (List.range 8).foldl (fun crcData i =>
      bitLibCopyBits crcData (i * 8) 8 protocol.encodedData (12 + 9 * i)) stack
    let crcRes := fdxBChecksum crcData
    let crcEx : Memory := fun _ => 0
    let crcEx := bitLibCopyBits crcEx 8 8 protocol.encodedData 84
    let crcEx := bitLibCopyBits crcEx 0 8 protocol.encodedData 93
    return crcRes == crcEx.load 16 0

def protocolFdxBDecode (protocol : ProtocolFDXB) : Option ProtocolFDXB := do
  let (encodedData, _) ← bitLibRemoveBitEveryNth protocol.encodedData 3 (14 * 9) 9
  let encodedData := (List.range 11).foldl (fun encodedData _ => bitLibPushBit encodedData 18 false)
    encodedData
  let data := bitLibCopyBits protocol.data 0 64 encodedData 0
  let data := bitLibCopyBits data 64 24 encodedData 80
  return { protocol with encodedData := encodedData, data := data }

/-- A round of `protocol_fdx_b_encoder_start`. -/
def protocolFdxBEncodeByte (data encodedData : Memory) (i : Nat) : Memory :=
  let encodedData := bitLibSetBit encodedData (11 + 9 * i) true
  if i = 8 ∨ i = 9 then encodedData
  else if i < 8 then bitLibCopyBits encodedData (12 + 9 * i) 8 data (i * 8)
  else bitLibCopyBits encodedData (12 + 9 * i) 8 data ((i - 2) * 8)

def protocolFdxBEncoderStart (protocol : ProtocolFDXB) : ProtocolFDXB :=
  let encodedData : Memory := fun i => if i < 18 then 0 else protocol.encodedData i
  let encodedData := bitLibSetBit encodedData 0 true
  let encodedData := (List.range 13).foldl (protocolFdxBEncodeByte protocol.data) encodedData
  let crcRes := Memory.store (fun _ => 0) 0 (fdxBChecksum protocol.data)
  let encodedData := bitLibCopyBits encodedData 84 8 crcRes 8
  let encodedData := bitLibCopyBits encodedData 93 8 crcRes 0
  { protocol with
    encodedData := encodedData
    encodedIndex := 0
    lastShort := false
    lastLevel := false }

/-! ### The frame of a tag -/

/-- The byte of the tag that stands in a byte of the frame. -/
def fdxBSource (i : Nat) : Nat := if i < 8 then i else i - 2

/-- The bits of a frame without the checksum, as far as they have been written. -/
structure FdxBFields (data : Memory) (n : Nat) (encoded : Memory) : Prop where
  header : ∀ q < 11, bitLibGetBit encoded q = decide (q = 0)
  control : ∀ i < n, bitLibGetBit encoded (11 + 9 * i) = true
  payload : ∀ i < n, i ≠ 8 → i ≠ 9 → ∀ k < 8,
    bitLibGetBit encoded (12 + 9 * i + k) = bitLibGetBit data (8 * fdxBSource i + k)

lemma bitLibGetBit_protocolFdxBEncodeByte (data encoded : Memory) (n q : Nat) :
    bitLibGetBit (protocolFdxBEncodeByte data encoded n) q =
      if q = 11 + 9 * n then true
      else if (n ≠ 8 ∧ n ≠ 9) ∧ 12 + 9 * n ≤ q ∧ q < 12 + 9 * n + 8 then
        bitLibGetBit data (8 * fdxBSource n + (q - (12 + 9 * n)))
      else bitLibGetBit encoded q := by
  have hcontrol : bitLibGetBit (bitLibSetBit encoded (11 + 9 * n) true) q =
      if q = 11 + 9 * n then true else bitLibGetBit encoded q := bitLibGetBit_setBit _ _ _ _
  rw [protocolFdxBEncodeByte]
  by_cases hskip : n = 8 ∨ n = 9
  · rw [if_pos hskip, hcontrol]
    split_ifs
    · rfl
    · omega
    · rfl
  · have hcopy : (if n < 8 then
        bitLibCopyBits (bitLibSetBit encoded (11 + 9 * n) true) (12 + 9 * n) 8 data (n * 8)
      else bitLibCopyBits (bitLibSetBit encoded (11 + 9 * n) true) (12 + 9 * n) 8 data ((n - 2) * 8)) =
        bitLibCopyBits (bitLibSetBit encoded (11 + 9 * n) true) (12 + 9 * n) 8 data
          (8 * fdxBSource n) := by
      rw [fdxBSource, Nat.mul_comm 8]
      split_ifs
      · rfl
      · rfl
    rw [if_neg hskip, hcopy, bitLibGetBit_copyBits, hcontrol]
    by_cases hin : 12 + 9 * n ≤ q ∧ q < 12 + 9 * n + 8
    · rw [if_pos hin, if_neg (by omega), if_pos ⟨by omega, hin⟩]
    · rw [if_neg hin]
      split_ifs
      · rfl
      · omega
      · rfl

lemma FdxBFields.succ {data encoded : Memory} {n : Nat} (h : FdxBFields data n encoded) :
    FdxBFields data (n + 1) (protocolFdxBEncodeByte data encoded n) := by
  refine ⟨fun q hq => ?_, fun i hi => ?_, fun i hi h8 h9 k hk => ?_⟩
  · rw [bitLibGetBit_protocolFdxBEncodeByte, if_neg (by omega), if_neg (by omega)]
    exact h.header q hq
  · rw [bitLibGetBit_protocolFdxBEncodeByte]
    by_cases hlast : i = n
    · rw [if_pos (by omega)]
    · rw [if_neg (by omega), if_neg (by omega)]
      exact h.control i (by omega)
  · rw [bitLibGetBit_protocolFdxBEncodeByte, if_neg (by omega)]
    by_cases hlast : i = n
    · subst hlast
      rw [if_pos (by omega), Nat.add_sub_cancel_left]
    · rw [if_neg (by omega)]
      exact h.payload i (by omega) h8 h9 k hk

/-- The bits of a frame. -/
structure FdxBFrame (data encoded : Memory) : Prop extends FdxBFields data 13 encoded where
  high : ∀ k < 8, bitLibGetBit encoded (84 + k) = (fdxBChecksum data).getLsbD (15 - k)
  low : ∀ k < 8, bitLibGetBit encoded (93 + k) = (fdxBChecksum data).getLsbD (7 - k)

/-- The bits of a checksum in memory, whose lower byte stands first. -/
lemma bitLibGetBit_store (crc : BitVec 16) {q : Nat} (hq : q < 16) :
    bitLibGetBit (Memory.store (fun _ => 0) 0 crc) q = crc.getLsbD (8 * (q / 8) + (7 - q % 8)) := by
  rw [bitLibGetBit_eq, Memory.store, if_pos (by omega), BitVec.getLsbD_extractLsb',
    decide_eq_true (by omega), Bool.true_and, Nat.sub_zero]

lemma protocolFdxBEncoderStart_frame (protocol : ProtocolFDXB) :
    FdxBFrame protocol.data (protocolFdxBEncoderStart protocol).encodedData := by
  obtain ⟨start, hstart⟩ : ∃ start, start = bitLibSetBit
      (fun i => if i < 18 then 0 else protocol.encodedData i) 0 true := ⟨_, rfl⟩
  have hfields (n : Nat) : FdxBFields protocol.data n
      ((List.range n).foldl (protocolFdxBEncodeByte protocol.data) start) := by
    induction n with
    | zero =>
      refine ⟨fun q hq => ?_, fun _ hi => absurd hi (Nat.not_lt_zero _),
        fun _ hi => absurd hi (Nat.not_lt_zero _)⟩
      rw [List.range_zero, List.foldl_nil, hstart, bitLibGetBit_setBit]
      by_cases hzero : q = 0
      · rw [if_pos hzero, decide_eq_true hzero]
      · rw [if_neg hzero, decide_eq_false hzero, bitLibGetBit_eq, if_pos (by omega)]
        simp
    | succ n ih =>
      rw [List.range_succ, List.foldl_append, List.foldl_cons, List.foldl_nil]
      exact ih.succ
  have h := hfields 13
  obtain ⟨fields, hlist⟩ : ∃ fields, fields =
      (List.range 13).foldl (protocolFdxBEncodeByte protocol.data) start := ⟨_, rfl⟩
  rw [← hlist] at h
  have hbits (q : Nat) : bitLibGetBit (protocolFdxBEncoderStart protocol).encodedData q =
      if 93 ≤ q ∧ q < 93 + 8 then (fdxBChecksum protocol.data).getLsbD (7 - (q - 93))
      else if 84 ≤ q ∧ q < 84 + 8 then (fdxBChecksum protocol.data).getLsbD (15 - (q - 84))
      else bitLibGetBit fields q := by
    rw [protocolFdxBEncoderStart, ← hstart, ← hlist]
    dsimp only
    rw [bitLibGetBit_copyBits, bitLibGetBit_copyBits]
    by_cases hlow : 93 ≤ q ∧ q < 93 + 8
    · have hindex : 8 * ((0 + (q - 93)) / 8) + (7 - (0 + (q - 93)) % 8) = 7 - (q - 93) := by omega
      rw [if_pos hlow, if_pos hlow, bitLibGetBit_store _ (by omega), hindex]
    · rw [if_neg hlow, if_neg hlow]
      by_cases hhigh : 84 ≤ q ∧ q < 84 + 8
      · have hindex : 8 * ((8 + (q - 84)) / 8) + (7 - (8 + (q - 84)) % 8) = 15 - (q - 84) := by omega
        rw [if_pos hhigh, if_pos hhigh, bitLibGetBit_store _ (by omega), hindex]
      · rw [if_neg hhigh, if_neg hhigh]
  refine ⟨⟨fun q hq => ?_, fun i hi => ?_, fun i hi h8 h9 k hk => ?_⟩, fun k hk => ?_, fun k hk => ?_⟩
  · rw [hbits, if_neg (by omega), if_neg (by omega), h.header q hq]
  · rw [hbits, if_neg (by omega), if_neg (by omega), h.control i hi]
  · rw [hbits, if_neg (by omega), if_neg (by omega), h.payload i hi h8 h9 k hk]
  · rw [hbits, if_neg (by omega), if_pos (by omega), Nat.add_sub_cancel_left]
  · rw [hbits, if_pos (by omega), Nat.add_sub_cancel_left]

/-! ### The round trip -/

variable {protocol : ProtocolFDXB} {data : Memory}

lemma fdxBGetBit_repeated {encoded : Memory}
    (hprotocol : protocol.encodedData = repeatedFrame 16 encoded) {q : Nat} (hq : q < 128) :
    bitLibGetBit protocol.encodedData q = bitLibGetBit encoded q := by
  rw [hprotocol, bitLibGetBit_repeatedFrame, Nat.mod_eq_of_lt hq]

lemma FdxBFrame.canBeDecoded {encoded : Memory} (h : FdxBFrame data encoded)
    (hprotocol : protocol.encodedData = repeatedFrame 16 encoded) (stack : Memory) :
    protocolFdxBCanBeDecoded protocol stack = some true := by
  have hheader (position : Nat) (hposition : position % 128 = 0) :
      bitLibGetBits16 protocol.encodedData position 11 = 0b10000000000 := by
    have hbits : packed 16 (fun k => bitLibGetBit protocol.encodedData (position + k)) 11 =
        packed 16 (fun k => decide (k = 0)) 11 := by
      apply packed_congr
      intro k hk
      have hmod : (position + k) % (8 * 16) = k := by omega
      rw [hprotocol, bitLibGetBit_repeatedFrame, hmod, h.header k hk]
    rw [bitLibGetBits16_eq _ _ (by decide), hbits]
    decide
  have hcontrol : bitLibTestParity protocol.encodedData 3 (13 * 9) .always1 9 = some true := by
    rw [bitLibTestParity_always1 _ _ _ (by decide)]
    apply congrArg some
    rw [List.all_eq_true]
    intro i hi
    have hlt : i < 13 := List.mem_range.mp hi
    have hindex : 3 + i * (9 : BitVec 8).toNat + (9 : BitVec 8).toNat - 1 = 11 + 9 * i := by
      have hnine : (9 : BitVec 8).toNat = 9 := rfl
      rw [hnine]
      omega
    rw [hindex, fdxBGetBit_repeated hprotocol (by omega), h.control i hlt]
  have hcrcData (n : Nat) (hn : n ≤ 8) : ∀ q < 8 * n, bitLibGetBit ((List.range n).foldl
      (fun crcData i => bitLibCopyBits crcData (i * 8) 8 protocol.encodedData (12 + 9 * i)) stack) q =
        bitLibGetBit data q := by
    induction n with
    | zero => exact fun q hq => absurd hq (Nat.not_lt_zero q)
    | succ n ih =>
      intro q hq
      rw [List.range_succ, List.foldl_append, List.foldl_cons, List.foldl_nil, bitLibGetBit_copyBits]
      by_cases hlast : n * 8 ≤ q ∧ q < n * 8 + 8
      · have hsource : 8 * fdxBSource n + (q - n * 8) = q := by
          rw [fdxBSource, if_pos (by omega)]
          omega
        rw [if_pos hlast, fdxBGetBit_repeated hprotocol (by omega),
          h.payload n (by omega) (by omega) (by omega) _ (by omega), hsource]
      · rw [if_neg hlast, ih (by omega) q (by omega)]
  have hchecksum : fdxBChecksum ((List.range 8).foldl
      (fun crcData i => bitLibCopyBits crcData (i * 8) 8 protocol.encodedData (12 + 9 * i)) stack) =
        fdxBChecksum data := by
    have hbytes : bytesOf ((List.range 8).foldl (fun crcData i =>
        bitLibCopyBits crcData (i * 8) 8 protocol.encodedData (12 + 9 * i)) stack) 8 =
          bytesOf data 8 := by
      apply List.map_congr_left
      intro i hi
      have hlt : i < 8 := List.mem_range.mp hi
      apply byte_eq_of_bits
      intro k hk
      have hdiv : (8 * i + k) / 8 = i := by omega
      have hmod : (8 * i + k) % 8 = k := by omega
      rw [hcrcData 8 (Nat.le_refl 8) _ (by omega), bitLibGetBit_eq, hdiv, hmod]
    rw [fdxBChecksum, hbytes, fdxBChecksum]
  have hload : Memory.load 16 (bitLibCopyBits (bitLibCopyBits (fun _ => 0) 8 8 protocol.encodedData 84)
      0 8 protocol.encodedData 93) 0 = fdxBChecksum data := by
    apply BitVec.eq_of_getLsbD_eq
    intro i hi
    have hbit := bitLibGetBit_eq (bitLibCopyBits (bitLibCopyBits (fun _ => 0) 8 8
      protocol.encodedData 84) 0 8 protocol.encodedData 93) (8 * (i / 8) + (7 - i % 8))
    have hdiv : (8 * (i / 8) + (7 - i % 8)) / 8 = 0 + i / 8 := by omega
    have hmod : 7 - (8 * (i / 8) + (7 - i % 8)) % 8 = i % 8 := by omega
    rw [hdiv, hmod] at hbit
    rw [Memory.getLsbD_load hi, ← hbit, bitLibGetBit_copyBits, bitLibGetBit_copyBits]
    by_cases hlow : i < 8
    · have hposition : 93 + (8 * (i / 8) + (7 - i % 8) - 0) = 93 + (7 - i) := by omega
      have hindex : 7 - (7 - i) = i := by omega
      rw [if_pos (by omega), hposition, fdxBGetBit_repeated hprotocol (by omega), h.low _ (by omega), hindex]
    · have hposition : 84 + (8 * (i / 8) + (7 - i % 8) - 8) = 84 + (15 - i) := by omega
      have hindex : 15 - (15 - i) = i := by omega
      rw [if_neg (by omega), if_pos (by omega), hposition, fdxBGetBit_repeated hprotocol (by omega),
        h.high _ (by omega), hindex]
  rw [protocolFdxBCanBeDecoded, hheader 0 rfl, hheader 128 rfl, hcontrol]
  dsimp only [Option.bind_eq_bind, Option.bind_some]
  rw [hchecksum, hload]
  simp

lemma FdxBFrame.decode {encoded : Memory} (h : FdxBFrame data encoded)
    (hprotocol : protocol.encodedData = repeatedFrame 16 encoded) :
    ∃ decoded, protocolFdxBDecode protocol = some decoded ∧ ∀ i < 11, decoded.data i = data i := by
  obtain ⟨removed, hremoved, hbits⟩ := bitLibRemoveBitEveryNth_bits protocol.encodedData 3 (14 * 9)
    (n := 9) (by decide)
  have hkept : kept (9 : BitVec 8).toNat (14 * 9 : BitVec 8).toNat = 112 := by decide
  have hnine : (9 : BitVec 8).toNat = 9 := rfl
  rw [hkept, hnine] at hbits
  obtain ⟨pushed, hlist⟩ : ∃ pushed, pushed = (List.range 11).foldl
      (fun encodedData _ => bitLibPushBit encodedData 18 false) removed := ⟨_, rfl⟩
  -- the bytes of the frame, with what is between them taken out
  have hpushed (i k : Nat) (hi : i < 13) (h8 : i ≠ 8) (h9 : i ≠ 9) (hk : k < 8) :
      bitLibGetBit pushed (8 * i + k) = bitLibGetBit data (8 * fdxBSource i + k) := by
    have hindex : 3 + keptIndex 9 (8 * i + k + 11 - 3) = 12 + 9 * i + k := by
      rw [keptIndex]
      omega
    rw [hlist, bitLibGetBit_foldl_pushBit removed 17 11 (by omega), hbits, if_pos (by omega), hindex,
      fdxBGetBit_repeated hprotocol (by omega), h.payload i hi h8 h9 k hk]
  rw [protocolFdxBDecode, hremoved]
  dsimp only [Option.bind_eq_bind, Option.bind_some]
  rw [← hlist]
  refine ⟨_, rfl, fun i hi => ?_⟩
  apply byte_eq_of_bits
  intro k hk
  have hdiv : (8 * i + k) / 8 = i := by omega
  have hmod : (8 * i + k) % 8 = k := by omega
  have hdata : bitLibGetBit data (8 * i + k) = (data i).getLsbD (7 - k) := by
    rw [bitLibGetBit_eq, hdiv, hmod]
  dsimp only
  rw [bitLibGetBit_copyBits, bitLibGetBit_copyBits, ← hdata]
  by_cases hfirst : i < 8
  · have hposition : 0 + (8 * i + k - 0) = 8 * i + k := by omega
    have hsource : fdxBSource i = i := if_pos hfirst
    rw [if_neg (by omega), if_pos (by omega), hposition, hpushed i k (by omega) (by omega) (by omega) hk,
      hsource]
  · have hposition : 80 + (8 * i + k - 64) = 8 * (i + 2) + k := by omega
    have hsource : fdxBSource (i + 2) = i := by
      rw [fdxBSource, if_neg (by omega), Nat.add_sub_cancel]
    rw [if_pos (by omega), hposition, hpushed (i + 2) k (by omega) (by omega) (by omega) hk, hsource]

end FlipperZero
