import FlipperZero.Foundation.Memory

/-!
# The data of a MIFARE Classic card

`mf_classic.c`: blocks of sixteen bytes in sectors, the last block of each sector with its two keys
and the access bits of its blocks. A block number is a byte, so the array of 256 blocks is never
left.
-/

namespace FlipperZero

inductive MfClassicType where
  | mini
  | type1k
  | type4k
  deriving DecidableEq, Repr

inductive MfClassicKeyType where
  | a
  | b
  deriving DecidableEq, Repr

inductive MfClassicAction where
  | dataRead
  | dataWrite
  | dataInc
  | dataDec
  | keyARead
  | keyAWrite
  | keyBRead
  | keyBWrite
  | acRead
  | acWrite
  deriving DecidableEq, Repr

/-- `MfClassicBlock`. A sector trailer has key A in its first six bytes, four bytes of access bits,
and key B. -/
abbrev MfClassicBlock := Fin 16 → BitVec 8

/-- `MfClassicData`, with the number that `iso14443_3a_get_cuid` makes of the UID. -/
structure MfClassicData where
  type : MfClassicType
  cuid : BitVec 32
  block : BitVec 8 → MfClassicBlock

def mfClassicGetTotalBlockNum : MfClassicType → Nat
  | .mini   => 20
  | .type1k => 64
  | .type4k => 256

/-! ### Sectors -/

def mfClassicGetSectorByBlock (block : BitVec 8) : Nat :=
  if block.toNat < 128 then (block ||| 0x03).toNat / 4
  else 32 + ((block ||| 0x0f).toNat - 32 * 4) / 16

/-- `mf_classic_get_sector_trailer_num_by_sector`, for a sector below 40. -/
def mfClassicGetSectorTrailerNumBySector (sector : Nat) : BitVec 8 :=
  if sector < 32 then BitVec.ofNat 8 (sector * 4 + 3)
  else BitVec.ofNat 8 (32 * 4 + (sector - 32) * 16 + 15)

def mfClassicGetSectorTrailerNumByBlock (block : BitVec 8) : BitVec 8 :=
  if block.toNat < 128 then block ||| 0x03 else block ||| 0x0f

def mfClassicIsSectorTrailer (block : BitVec 8) : Bool :=
  block == mfClassicGetSectorTrailerNumByBlock block

-- the bytes of a block are numbered with one instance in every module
lemma neZero_blockSize : NeZero 16 := ⟨by decide⟩

namespace MfClassicData

variable (data : MfClassicData)

/-- `mf_classic_get_sector_trailer_by_sector`. -/
def getSectorTrailerBySector (sector : Nat) : MfClassicBlock :=
  data.block (mfClassicGetSectorTrailerNumBySector sector)

def getKey (sector : Nat) (keyType : MfClassicKeyType) : BitVec 64 :=
  let secTr := data.getSectorTrailerBySector sector
  match keyType with
  | .a => (secTr 0 ++ secTr 1 ++ secTr 2 ++ secTr 3 ++ secTr 4 ++ secTr 5).setWidth 64
  | .b => (secTr 10 ++ secTr 11 ++ secTr 12 ++ secTr 13 ++ secTr 14 ++ secTr 15).setWidth 64

def setBlock (block : BitVec 8) (value : MfClassicBlock) : MfClassicData :=
  { data with block := Function.update data.block block value }

/-! ### Access bits -/

/-- `mf_classic_is_allowed_access_sector_trailer`. -/
def isAllowedAccessSectorTrailer (block : BitVec 8) (keyType : MfClassicKeyType)
    (action : MfClassicAction) : Bool :=
  let secTr := data.getSectorTrailerBySector (mfClassicGetSectorByBlock block)
  let ac := ((secTr 7 >>> 5) &&& 0x04) ||| ((secTr 8 >>> 2) &&& 0x02) ||| ((secTr 8 >>> 7) &&& 0x01)
  match action, keyType with
  | .keyAWrite, .a | .keyBWrite, .a => ac == 0x00 || ac == 0x01
  | .keyAWrite, .b | .keyBWrite, .b => ac == 0x00 || ac == 0x04 || ac == 0x03 || ac == 0x01
  | .keyBRead, _                    => ac == 0x00 || ac == 0x02 || ac == 0x01
  | .acRead, _                      => true
  | .acWrite, .a                    => ac == 0x01
  | .acWrite, .b                    => ac == 0x01 || ac == 0x03 || ac == 0x05
  | _, _                            => false

end MfClassicData

def mfClassicDataAccessBits (secTr : MfClassicBlock) : Nat → Option (BitVec 8)
  | 0 => some (((secTr 7 >>> 2) &&& 0x04) ||| ((secTr 8 <<< 1) &&& 0x02) ||| ((secTr 8 >>> 4) &&& 0x01))
  | 1 => some (((secTr 7 >>> 3) &&& 0x04) ||| (secTr 8 &&& 0x02) ||| ((secTr 8 >>> 5) &&& 0x01))
  | 2 => some (((secTr 7 >>> 4) &&& 0x04) ||| ((secTr 8 >>> 1) &&& 0x02) ||| ((secTr 8 >>> 6) &&& 0x01))
  | _ => none

def mfClassicIsAllowedAccessDataBlock (secTr : MfClassicBlock) (block : BitVec 8)
    (keyType : MfClassicKeyType) (action : MfClassicAction) : Bool :=
  if block = 0 ∧ action = .dataWrite then false
  else
    let sectorBlock :=
      if block.toNat ≤ 128 then (block &&& 0x03).toNat else (block &&& 0x0f).toNat / 5
    match mfClassicDataAccessBits secTr sectorBlock with
    | none    => false
    | some ac =>
      match action, keyType with
      | .dataRead, .a  => !(ac == 0x03 || ac == 0x05 || ac == 0x07)
      | .dataRead, .b  => !(ac == 0x07)
      | .dataWrite, .a => ac == 0x00
      | .dataWrite, .b => ac == 0x00 || ac == 0x04 || ac == 0x06 || ac == 0x03
      | .dataInc, .a   => ac == 0x00
      | .dataInc, .b   => ac == 0x00 || ac == 0x06
      | .dataDec, _    => ac == 0x00 || ac == 0x06 || ac == 0x01
      | _, _           => false

/-- `mf_classic_is_allowed_access`. -/
def MfClassicData.isAllowedAccess (data : MfClassicData) (block : BitVec 8)
    (keyType : MfClassicKeyType) (action : MfClassicAction) : Bool :=
  if mfClassicIsSectorTrailer block then data.isAllowedAccessSectorTrailer block keyType action
  else
    mfClassicIsAllowedAccessDataBlock
      (data.getSectorTrailerBySector (mfClassicGetSectorByBlock block)) block keyType action

/-! ### Values -/

/-- `mf_classic_block_to_value`: whether the block holds a value, and what stands in its place. -/
def mfClassicBlockToValue (block : MfClassicBlock) : Bool × BitVec 32 :=
  let v := block 3 ++ block 2 ++ block 1 ++ block 0
  let vInv := block 7 ++ block 6 ++ block 5 ++ block 4
  let v1 := block 11 ++ block 10 ++ block 9 ++ block 8
  (v == v1 && v == ~~~vInv && block 12 == ~~~block 13 && block 14 == ~~~block 15 &&
    block 12 == block 14, v)

def mfClassicValueToBlock (value : BitVec 32) (addr : BitVec 8) : MfClassicBlock := fun i =>
  if i.val < 4 then value.extractLsb' (8 * i.val) 8
  else if i.val < 8 then (~~~value).extractLsb' (8 * (i.val - 4)) 8
  else if i.val < 12 then value.extractLsb' (8 * (i.val - 8)) 8
  else if i.val % 2 = 0 then addr
  else ~~~addr

end FlipperZero
