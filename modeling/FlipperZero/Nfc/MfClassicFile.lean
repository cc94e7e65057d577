import FlipperZero.FlipperFormat.ReadBack
import FlipperZero.Furi.FuriString
import FlipperZero.Nfc.MfClassic

/-!
# Card files

`mf_classic_save` and `mf_classic_load`. The file has a line for each block of the card, with `??`
in the place of every byte that is not known; the loader finds from the text of a line which keys
were found and which blocks were read. The parser of a line takes the characters of sixteen bytes
whatever the length of the line, and `furi_string_get_char` has no character behind its end.
-/

namespace FlipperZero

open Foundation FlipperFormatStream

/-! ### The data -/

/-- `MfClassicData` with all that its file holds: `atqa` and `sak` of `iso14443_3a_data`, and which
blocks were read and which keys were found. -/
structure MfClassicFileData extends MfClassicData where
  atqa : UInt8 × UInt8
  sak : UInt8
  blockReadMask : Fin 8 → BitVec 32
  keyAMask : BitVec 64
  keyBMask : BitVec 64

def mfClassicAlloc : MfClassicFileData :=
  ⟨⟨.mini, 0, fun _ _ => 0⟩, (0, 0), 0, fun _ => 0, 0, 0⟩

def mfClassicGetTotalSectorsNum : MfClassicType → Nat
  | .mini   => 5
  | .type1k => 16
  | .type4k => 40

/-- The `type_name` of a card type. -/
def mfClassicTypeName : MfClassicType → List UInt8
  | .mini   => ascii ['M', 'I', 'N', 'I']
  | .type1k => ascii ['1', 'K']
  | .type4k => ascii ['4', 'K']

/-- The word of `block_read_mask` with the bit of a block. -/
def mfClassicMaskWord (blockNum : BitVec 8) : Fin 8 := ⟨blockNum.toNat / 32, by omega⟩

namespace MfClassicFileData

variable (data : MfClassicFileData)

/-- `mf_classic_is_key_found`. -/
def isKeyFound (sectorNum : Nat) : MfClassicKeyType → Bool
  | .a => data.keyAMask.getLsbD sectorNum
  | .b => data.keyBMask.getLsbD sectorNum

/-- `mf_classic_is_block_read`. -/
def isBlockRead (blockNum : BitVec 8) : Bool :=
  (data.blockReadMask (mfClassicMaskWord blockNum)).getLsbD (blockNum.toNat % 32)

/-- `mf_classic_set_key_found`: the six bytes of the key, the highest first. -/
def setKeyFound (sectorNum : Nat) (keyType : MfClassicKeyType) (key : BitVec 64) :
    MfClassicFileData :=
  let secTrailer := data.getSectorTrailerBySector sectorNum
  let trailerNum := mfClassicGetSectorTrailerNumBySector sectorNum
  match keyType with
  | .a =>
    { data with
      block := Function.update data.block trailerNum fun i =>
        if i.val < 6 then key.extractLsb' (8 * (5 - i.val)) 8 else secTrailer i
      keyAMask := data.keyAMask ||| 1#64 <<< sectorNum }
  | .b =>
    { data with
      block := Function.update data.block trailerNum fun i =>
        if 10 ≤ i.val then key.extractLsb' (8 * (15 - i.val)) 8 else secTrailer i
      keyBMask := data.keyBMask ||| 1#64 <<< sectorNum }

/-- `mf_classic_set_block_read`: of a sector trailer the access bits alone. -/
def setBlockRead (blockNum : BitVec 8) (blockData : MfClassicBlock) : MfClassicFileData :=
  { data with
    block := Function.update data.block blockNum fun i =>
      if mfClassicIsSectorTrailer blockNum = true ∧ ¬(6 ≤ i.val ∧ i.val < 10) then
        data.block blockNum i
      else blockData i
    blockReadMask := Function.update data.blockReadMask (mfClassicMaskWord blockNum)
      (data.blockReadMask (mfClassicMaskWord blockNum) ||| 1#32 <<< (blockNum.toNat % 32)) }

end MfClassicFileData

/-! ### Saving -/

def mfClassicBytesText (known : Bool) (block : MfClassicBlock) (bytes : List (Fin 16)) :
    List UInt8 :=
  bytes.flatMap fun i => if known then hexText 2 (block i).toNat ++ [space] else [63, 63, space]

attribute [local instance] neZero_blockSize in
def mfClassicSetBlockStr (data : MfClassicFileData) (blockNum : BitVec 8) : List UInt8 :=
  furiStringTrim <|
    if mfClassicIsSectorTrailer blockNum then
      let sectorNum := mfClassicGetSectorByBlock blockNum
      let secTr := data.getSectorTrailerBySector sectorNum
      mfClassicBytesText (data.isKeyFound sectorNum .a) secTr [0, 1, 2, 3, 4, 5] ++
        mfClassicBytesText (data.isBlockRead blockNum) secTr [6, 7, 8, 9] ++
        mfClassicBytesText (data.isKeyFound sectorNum .b) secTr [10, 11, 12, 13, 14, 15]
    else mfClassicBytesText (data.isBlockRead blockNum) (data.block blockNum) (List.finRange 16)

/-- `ISO14443_3A_ATQA_KEY`. -/
def iso14443AtqaKey : List UInt8 := ascii ['A', 'T', 'Q', 'A']

/-- `ISO14443_3A_SAK_KEY`. -/
def iso14443SakKey : List UInt8 := ascii ['S', 'A', 'K']

def mfClassicTypeKey : List UInt8 :=
  ascii ['M', 'i', 'f', 'a', 'r', 'e', ' ', 'C', 'l', 'a', 's', 's', 'i', 'c', ' ', 't', 'y', 'p',
    'e']

/-- The key of `mf_classic_data_format_version`. -/
def mfClassicVersionKey : List UInt8 :=
  ascii ['D', 'a', 't', 'a', ' ', 'f', 'o', 'r', 'm', 'a', 't', ' ', 'v', 'e', 'r', 's', 'i', 'o',
    'n']

def mfClassicBlockKey (i : Nat) : List UInt8 :=
  ascii ['B', 'l', 'o', 'c', 'k', ' '] ++ decimalText i

/-- The writes of `iso14443_3a_save`: the bytes of `atqa` change places. -/
def iso14443SaveItems (data : MfClassicFileData) : List Item :=
  [.comment (ascii ['I', 'S', 'O', '1', '4', '4', '4', '3', '-', '3', 'A', ' ', 's', 'p', 'e', 'c',
      'i', 'f', 'i', 'c', ' ', 'd', 'a', 't', 'a']),
    .entry ⟨iso14443AtqaKey, .hex [data.atqa.2, data.atqa.1]⟩,
    .entry ⟨iso14443SakKey, .hex [data.sak]⟩]

def mfClassicBlockItem (data : MfClassicFileData) (i : Nat) : Item :=
  .entry ⟨mfClassicBlockKey i, .str (mfClassicSetBlockStr data (BitVec.ofNat 8 i))⟩

/-- The writes of `mf_classic_save`. -/
def mfClassicSaveItems (data : MfClassicFileData) : List Item :=
  iso14443SaveItems data ++
    [.comment (ascii ['M', 'i', 'f', 'a', 'r', 'e', ' ', 'C', 'l', 'a', 's', 's', 'i', 'c', ' ', 's',
        'p', 'e', 'c', 'i', 'f', 'i', 'c', ' ', 'd', 'a', 't', 'a']),
      .entry ⟨mfClassicTypeKey, .str (mfClassicTypeName data.type)⟩,
      .entry ⟨mfClassicVersionKey, .uint32 [2]⟩,
      .comment (ascii ['M', 'i', 'f', 'a', 'r', 'e', ' ', 'C', 'l', 'a', 's', 's', 'i', 'c', ' ', 'b',
        'l', 'o', 'c', 'k', 's', ','] ++ [32, 39, 63, 63, 39, 32] ++ ascii ['m', 'e', 'a', 'n', 's',
        ' ', 'u', 'n', 'k', 'n', 'o', 'w', 'n', ' ', 'd', 'a', 't', 'a'])] ++
    (List.range (mfClassicGetTotalBlockNum data.type)).map (mfClassicBlockItem data)

def mfClassicSave (data : MfClassicFileData) (ff : File) : Bool × File :=
  writeItems (mfClassicSaveItems data) ff

/-! ### Parsing a block -/

/-- `furi_string_get_char`, which has no character outside the string. -/
def furiStringGetChar (str : List UInt8) (index : Nat) : Option UInt8 := str[index]?

/-- `block_tmp` and `block_unknown_bytes_mask`. -/
structure MfClassicBlockScan where
  block : MfClassicBlock
  unknown : BitVec 16

/-- One round of the loop over the bytes of a line. -/
def mfClassicScanByte (blockStr : List UInt8) (s : MfClassicBlockScan) (i : Fin 16) :
    Option MfClassicBlockScan :=
  (furiStringGetChar blockStr (3 * i.val)).bind fun hi =>
    (furiStringGetChar blockStr (3 * i.val + 1)).map fun low =>
      match hexCharToUint8 hi low with
      | some byte => { s with block := Function.update s.block i (BitVec.ofNat 8 byte) }
      | none      => { s with unknown := s.unknown ||| 1#16 <<< i.val }

/-- The loop over the bytes of a line. -/
def mfClassicScanBlock (blockStr : List UInt8) : Option MfClassicBlockScan :=
  (List.finRange 16).foldlM (mfClassicScanByte blockStr) ⟨fun _ => 0, 0⟩

attribute [local instance] neZero_blockSize in
/-- The part of `mf_classic_parse_block` behind the loop. -/
def mfClassicStoreBlock (s : MfClassicBlockScan) (data : MfClassicFileData) (blockNum : BitVec 8) :
    MfClassicFileData :=
  let sectorNum := mfClassicGetSectorByBlock blockNum
  let block := s.block
  if s.unknown = 0xffff then data
  else if mfClassicIsSectorTrailer blockNum then
    let data :=
      if s.unknown &&& 0x003f = 0 then
        data.setKeyFound sectorNum .a
          ((block 0 ++ block 1 ++ block 2 ++ block 3 ++ block 4 ++ block 5).setWidth 64)
      else data
    let data :=
      if s.unknown &&& 0x03c0 = 0 then data.setBlockRead blockNum block else data
    if s.unknown &&& 0xfc00 = 0 then
      data.setKeyFound sectorNum .b
        ((block 10 ++ block 11 ++ block 12 ++ block 13 ++ block 14 ++ block 15).setWidth 64)
    else data
  else if s.unknown = 0 then data.setBlockRead blockNum block
  else data

/-- `mf_classic_parse_block`, or nothing where it takes a character outside the line. -/
def mfClassicParseBlock (blockStr : List UInt8) (data : MfClassicFileData) (blockNum : BitVec 8) :
    Option MfClassicFileData :=
  (mfClassicScanBlock (furiStringTrim (furiStringTrim blockStr))).map fun s =>
    mfClassicStoreBlock s data blockNum

/-! ### Loading -/

/-- How `mf_classic_load` goes on or ends: it returns, or the parser takes a character outside a
line. -/
inductive MfClassicLoad where
  | ended (parsed : Bool) (data : MfClassicFileData) (ff : File)
  | outside (blockStr : List UInt8)

/-- `iso14443_3a_load`. The bytes that were read before a failure are stored; from version 3 on the
bytes of `atqa` change places. -/
def iso14443Load (rounds : Nat) (strictMode : Bool) (version : Nat) (data : MfClassicFileData)
    (ff : File) : Option (Bool × MfClassicFileData × File) :=
  (readValueLine scanHex rounds iso14443AtqaKey 2 strictMode ff).bind fun ((ok, atqa), ff) =>
    let data := { data with
      atqa := ((atqa[0]?.map UInt8.ofNat).getD data.atqa.1,
        (atqa[1]?.map UInt8.ofNat).getD data.atqa.2) }
    if ok then
      (readValueLine scanHex rounds iso14443SakKey 1 strictMode ff).map fun ((ok, sak), ff) =>
        let data := { data with sak := (sak[0]?.map UInt8.ofNat).getD data.sak }
        if ok then
          (true, if 2 < version then { data with atqa := data.atqa.swap } else data, ff)
        else (false, data, ff)
    else some (false, data, ff)

def mfClassicTypeOfName (name : List UInt8) : Option MfClassicType :=
  [MfClassicType.mini, .type1k, .type4k].find? fun type => cString name = mfClassicTypeName type

/-- The format version: whether the format is an old one. A file without a version is rewound, and
there is no answer where that fails. -/
def mfClassicLoadVersion (rounds : Nat) (strictMode : Bool) (ff : File) :
    Option (Option Bool × File) :=
  (readValueLine scanUint32 rounds mfClassicVersionKey 1 strictMode ff).map
    fun ((ok, version), ff) =>
      if ok then (some (decide (version.headD 0 < 2)), ff)
      else
        let r := fileStreamSeek ff 0 .fromStart
        (if r.1 then some true else none, r.2)

/-- `mf_classic_load` up to the blocks: whether it goes on, the data with the card type, and whether
the format is an old one. -/
def mfClassicLoadHead (rounds : Nat) (strictMode : Bool) (version : Nat) (data : MfClassicFileData)
    (ff : File) : Option (Bool × MfClassicFileData × Bool × File) :=
  (iso14443Load rounds strictMode version data ff).bind fun (ok, data, ff) =>
    if ok then
      (readStringLine rounds mfClassicTypeKey strictMode ff).bind fun ((ok, name), ff) =>
        match if ok then mfClassicTypeOfName name else none with
        | none      => some (false, data, false, ff)
        | some type =>
          (mfClassicLoadVersion rounds strictMode ff).map fun (oldFormat, ff) =>
            (oldFormat.isSome, { data with type }, oldFormat.getD false, ff)
    else some (false, data, false, ff)

/-- The loop of `mf_classic_load` over the numbers of blocks. -/
def mfClassicLoadBlocks (rounds : Nat) (strictMode : Bool) :
    List Nat → MfClassicFileData → File → Option MfClassicLoad
  | [], data, ff          => some (.ended true data ff)
  | i :: blocks, data, ff =>
    (readStringLine rounds (mfClassicBlockKey i) strictMode ff).bind fun ((ok, blockStr), ff) =>
      if ok then
        match mfClassicParseBlock blockStr data (BitVec.ofNat 8 i) with
        | none      => some (.outside blockStr)
        | some data => mfClassicLoadBlocks rounds strictMode blocks data ff
      else some (.ended false data ff)

/-- The data of an old format: no key and no block is known. -/
def MfClassicFileData.unknown (data : MfClassicFileData) : MfClassicFileData :=
  { data with keyAMask := 0, keyBMask := 0, blockReadMask := fun _ => 0 }

/-- `mf_classic_load`, if each key search takes at most that many rounds. -/
def mfClassicLoad (rounds : Nat) (strictMode : Bool) (version : Nat) (data : MfClassicFileData)
    (ff : File) : Option MfClassicLoad :=
  (mfClassicLoadHead rounds strictMode version data ff).bind fun (ok, data, oldFormat, ff) =>
    if ok then
      (mfClassicLoadBlocks rounds strictMode
        (List.range (mfClassicGetTotalBlockNum data.type)) data ff).map fun
        | .ended true data ff => .ended true (if oldFormat then data.unknown else data) ff
        | r                   => r
    else some (.ended false data ff)

end FlipperZero
