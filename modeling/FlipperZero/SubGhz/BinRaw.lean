import FlipperZero.FlipperFormat.ReadBack
import FlipperZero.SubGhz.BlockEncoder
import FlipperZero.SubGhz.Raw

/-!
# BinRAW

`bin_raw.c` keeps a transmission as segments of bits in one array of bytes, each with the byte at
which it starts and its number of bits, aligned to the right. The decoder writes the segments to a
file. The encoder reads them back one behind the other, shifts them left to one string of bits in
the same array, and makes the upload from it.
-/

namespace FlipperZero

open Foundation FlipperFormatStream

/-! ### Data -/

structure BinRAWMarkup where
  byteBias : Nat
  bitCount : Nat
  deriving DecidableEq

/-- `SubGhzProtocolDecoderBinRAW`, as far as it is saved. -/
structure SubGhzProtocolDecoderBinRAW where
  dataCountBit : UInt32
  data : Nat → BitVec 8
  dataMarkup : Nat → BinRAWMarkup
  te : UInt32

/-- The texts that `printf` makes of the coordinates of a preset: a `float` has at most 39 digits in
front of the point and is printed with six behind it. -/
structure SubGhzCoordinates where
  latitude : List UInt8
  longitude : List UInt8
  latitude_text : OneLine latitude ∧ latitude.length ≤ 64
  longitude_text : OneLine longitude ∧ longitude.length ≤ 64

/-- `SubGhzProtocolEncoderBinRAW`; the upload is `none` when a check stops the system first. -/
structure SubGhzProtocolEncoderBinRAW where
  dataCountBit : Nat
  data : Nat → BitVec 8
  dataMarkup : Nat → BinRAWMarkup
  te : UInt32
  repeatCount : UInt32
  sizeUpload : Nat
  upload : Option SubGhzUpload

def subghzProtocolBinRawGetFullByte (bitCount : Nat) : Nat :=
  if bitCount % 8 ≠ 0 then bitCount / 8 + 1 else bitCount / 8

/-- The entries from `i` on that the loops go through, up to the end of the array or one without
bits. -/
def binRawSegments (dataMarkup : Nat → BinRAWMarkup) : Nat → Nat → List BinRAWMarkup
  | 0,        _ => []
  | left + 1, i =>
    if (dataMarkup i).bitCount ≠ 0 then dataMarkup i :: binRawSegments dataMarkup left (i + 1)
    else []

/-! ### Saving -/

/-- The key of the number of bits. -/
def binRawBitKey : List UInt8 := ascii ['B', 'i', 't']

/-- The key of the duration of a bit. -/
def binRawTeKey : List UInt8 := ascii ['T', 'E']

/-- The key of the number of bits of a segment. -/
def binRawBitRawKey : List UInt8 := ascii ['B', 'i', 't', '_', 'R', 'A', 'W']

/-- The key of the bytes of a segment. -/
def binRawDataRawKey : List UInt8 := ascii ['D', 'a', 't', 'a', '_', 'R', 'A', 'W']

def binRawRepeatKey : List UInt8 := ascii ['R', 'e', 'p', 'e', 'a', 't']

/-- The writes of `subghz_block_generic_serialize_common` to an empty stream, for BinRAW. The size of
the data of a preset is a `uint16_t` of the writer. -/
def subghzBlockGenericSerializeCommon (preset : SubGhzRadioPreset) (coordinates : SubGhzCoordinates) :
    List FlipperStreamWriteData :=
  let presetName := subghzBlockGenericGetPresetName preset.name
  [⟨ascii ['F', 'i', 'l', 'e', 't', 'y', 'p', 'e'],
      .str (ascii ['F', 'l', 'i', 'p', 'p', 'e', 'r', ' ', 'S', 'u', 'b', 'G', 'h', 'z', ' ', 'K', 'e',
        'y', ' ', 'F', 'i', 'l', 'e'])⟩,
    ⟨ascii ['V', 'e', 'r', 's', 'i', 'o', 'n'], .uint32 [1]⟩,
    ⟨ascii ['F', 'r', 'e', 'q', 'u', 'e', 'n', 'c', 'y'], .uint32 [preset.frequency]⟩,
    ⟨ascii ['P', 'r', 'e', 's', 'e', 't'], .str presetName⟩] ++
  (if presetName = subghzPresetCustom then
    [⟨ascii ['C', 'u', 's', 't', 'o', 'm', '_', 'p', 'r', 'e', 's', 'e', 't', '_', 'm', 'o', 'd',
          'u', 'l', 'e'], .str (ascii ['C', 'C', '1', '1', '0', '1'])⟩,
      ⟨ascii ['C', 'u', 's', 't', 'o', 'm', '_', 'p', 'r', 'e', 's', 'e', 't', '_', 'd', 'a', 't',
          'a'], .hex (preset.data.take (preset.data.length % 65536))⟩]
  else []) ++
  [⟨ascii ['L', 'a', 't'], .float [coordinates.latitude]⟩,
    ⟨ascii ['L', 'o', 'n'], .float [coordinates.longitude]⟩,
    ⟨subghzProtocolKey, .str (ascii ['B', 'i', 'n', 'R', 'A', 'W'])⟩]

def binRawSegmentItems (data : Nat → BitVec 8) (markup : BinRAWMarkup) :
    List FlipperStreamWriteData :=
  [⟨binRawBitRawKey, .uint32 [UInt32.ofNat markup.bitCount]⟩,
    ⟨binRawDataRawKey, .hex ((List.range (subghzProtocolBinRawGetFullByte markup.bitCount)).map
      fun i => UInt8.ofBitVec (data (markup.byteBias + i)))⟩]

/-- The writes behind the header. -/
def binRawItems (inst : SubGhzProtocolDecoderBinRAW) : List FlipperStreamWriteData :=
  ⟨binRawBitKey, .uint32 [inst.dataCountBit]⟩ :: ⟨binRawTeKey, .uint32 [inst.te]⟩ ::
    (binRawSegments inst.dataMarkup 20 0).flatMap (binRawSegmentItems inst.data)

def subghzProtocolDecoderBinRawSerialize (inst : SubGhzProtocolDecoderBinRAW)
    (preset : SubGhzRadioPreset) (coordinates : SubGhzCoordinates) : Bool × File :=
  writeValueLines (subghzBlockGenericSerializeCommon preset coordinates ++ binRawItems inst)
    File.created

/-! ### The upload -/

/-- `subghz_protocol_blocks_set_bit_array`, or nothing where its check stops the system. -/
def subghzProtocolBlocksSetBitArray (bitValue : Bool) (dataArray : Nat → BitVec 8)
    (setIndexBit maxSizeArray : Nat) : Option (Nat → BitVec 8) :=
  let byte := dataArray (setIndexBit / 8)
  let bit := 7 - setIndexBit % 8
  if setIndexBit < maxSizeArray * 8 then
    some (Function.update dataArray (setIndexBit / 8)
      (if bitValue then byte ||| 1#8 <<< bit else byte &&& ~~~(1#8 <<< bit)))
  else none

/-- The loop over the bits of a segment, from the bit `y` of the array on. -/
def binRawGlueBits (bitBias : Nat) : Nat → Nat → (Nat → BitVec 8) × Nat →
    Option ((Nat → BitVec 8) × Nat)
  | 0,     _, s => some s
  | n + 1, y, s =>
    (subghzProtocolBlocksSetBitArray (subghzProtocolBlocksGetBitArray s.1 (y + bitBias)) s.1 s.2
      512).bind fun data => binRawGlueBits bitBias n (y + 1) (data, s.2 + 1)

/-- The round of `subghz_protocol_encoder_bin_raw_get_upload` for a segment. -/
def binRawGlue (s : (Nat → BitVec 8) × Nat) (markup : BinRAWMarkup) :
    Option ((Nat → BitVec 8) × Nat) :=
  binRawGlueBits (subghzProtocolBinRawGetFullByte markup.bitCount * 8 - markup.bitCount)
    markup.bitCount (markup.byteBias * 8) s

def subghzProtocolEncoderBinRawGetUpload (inst : SubGhzProtocolEncoderBinRAW) :
    SubGhzProtocolEncoderBinRAW :=
  match (binRawSegments inst.dataMarkup 20 0).foldlM binRawGlue (inst.data, 0) with
  | none             => { inst with upload := none }
  | some (data, ind) =>
    let upload :=
      subghzProtocolBlocksGetUploadFromBitArray data ind inst.sizeUpload inst.te.toBitVec .left
    { inst with
      data
      sizeUpload := upload.written.length
      upload := some upload }

/-! ### Loading -/

/-- `subghz_protocol_encoder_bin_raw_alloc`, with memory that is cleared. -/
def subghzProtocolEncoderBinRawAlloc : SubGhzProtocolEncoderBinRAW where
  dataCountBit := 0
  data := fun _ => 0
  dataMarkup := fun _ => ⟨0, 0⟩
  te := 0
  repeatCount := 10
  sizeUpload := 512 * 5
  upload := some (.done [])

/-- Bytes that are read to an array. -/
def binRawStore (data : Nat → BitVec 8) (start : Nat) (values : List Nat) : Nat → BitVec 8 :=
  fun i => if start ≤ i ∧ i < start + values.length then BitVec.ofNat 8 (values.getD (i - start) 0)
    else data i

/-- The loop of `subghz_protocol_encoder_bin_raw_deserialize` over the segments, with so many rounds
left. -/
def binRawReadSegments (rounds : Nat) :
    Nat → Nat → Nat → Nat → SubGhzProtocolEncoderBinRAW → File →
      Option (SubGhzProtocolEncoderBinRAW × File)
  | 0, _, _, _, inst, ff => some (inst, ff)
  | left + 1, ind, byteBias, byteCount, inst, ff =>
    (readValueLine scanUint32 rounds binRawBitRawKey 1 false ff).bind fun ((ok, values), ff) =>
      let tempData := values.getD 0 0 % 2 ^ 16
      let byteCount := (byteCount + subghzProtocolBinRawGetFullByte tempData) % 2 ^ 16
      if !ok ∨ 20 ≤ ind ∨ 512 < byteCount then some (inst, ff)
      else
        (readValueLine scanHex rounds binRawDataRawKey (subghzProtocolBinRawGetFullByte tempData)
          false ff).bind fun ((ok, values), ff) =>
          let data := binRawStore inst.data byteBias values
          if ok then
            binRawReadSegments rounds left (ind + 1)
              ((byteBias + subghzProtocolBinRawGetFullByte tempData) % 2 ^ 16) byteCount
              { inst with
                data
                dataMarkup := Function.update inst.dataMarkup ind ⟨byteBias, tempData⟩ } ff
          else
            some ({ inst with
              data
              dataMarkup := Function.update inst.dataMarkup ind ⟨byteBias, 0⟩ }, ff)

/-- `subghz_protocol_encoder_bin_raw_deserialize`, if each key search takes at most that many
rounds. -/
def subghzProtocolEncoderBinRawDeserialize (rounds : Nat) (inst : SubGhzProtocolEncoderBinRAW)
    (ff : File) : Option (Bool × SubGhzProtocolEncoderBinRAW) :=
  let (ok, ff) := fileStreamSeek ff 0 .fromStart
  if !ok then some (false, inst)
  else
    (readValueLine scanUint32 rounds binRawBitKey 1 false ff).bind fun ((ok, values), ff) =>
      if !ok then some (false, inst)
      else
        let inst := { inst with dataCountBit := values.getD 0 0 % 2 ^ 16 }
        (readValueLine scanUint32 rounds binRawTeKey 1 false ff).bind fun ((ok, values), ff) =>
          let inst := { inst with te := (values[0]?.map UInt32.ofNat).getD inst.te }
          if !ok then some (false, inst)
          else
            (binRawReadSegments rounds 21 0 0 0
              { inst with dataMarkup := fun _ => ⟨0, 0⟩ } ff).bind fun (inst, ff) =>
              let (ok, ff) := fileStreamSeek ff 0 .fromStart
              if !ok then some (false, inst)
              else
                (readValueLine scanUint32 rounds binRawRepeatKey 1 false ff).map
                  fun ((_, values), _) =>
                    (true, subghzProtocolEncoderBinRawGetUpload
                      { inst with
                        repeatCount := (values[0]?.map UInt32.ofNat).getD inst.repeatCount })

end FlipperZero
