import FlipperZero.Foundation.Reads
import FlipperZero.Nfc.MfUltralightListener

/-!
# FeliCa: blocks, permissions and block lists

The FeliCa listener answers the Read and Write requests of a reader from the blocks of an emulated
card. The block MC holds the permissions of the others; what a reader writes to it goes to a shadow
that takes effect when the field is switched off.

A request is read where it lies in the receive buffer. An element of its block list is the index of
its first byte, `none` for the null pointer, and the byte budget `request_size_buf` is handed from
one step through the list to the next. A `Reads` program without a value has followed the null
pointer; a `furi_crash` is a value of its own. The triple DES of the MAC is a parameter.
-/

namespace FlipperZero

open Foundation Reads

/-! ### Data -/

/-- `FelicaBlockData`, the first 16 bytes. -/
abbrev FelicaBlockData := Memory

/-- `FelicaData`. The blocks are those of the file system, without their status flags. -/
structure FelicaData where
  idm : List (BitVec 8)
  block : Nat → FelicaBlockData

/-- The numbers of the blocks behind the 14 of the user. -/
def felicaBlockIndexReg : Nat := 0x0E
def felicaBlockIndexRc : Nat := 0x80
def felicaBlockIndexMac : Nat := 0x81
def felicaBlockIndexId : Nat := 0x82
def felicaBlockIndexDId : Nat := 0x83
def felicaBlockIndexSerC : Nat := 0x84
def felicaBlockIndexCkv : Nat := 0x86
def felicaBlockIndexCk : Nat := 0x87
def felicaBlockIndexMc : Nat := 0x88
def felicaBlockIndexWcnt : Nat := 0x90
def felicaBlockIndexMacA : Nat := 0x91
def felicaBlockIndexState : Nat := 0x92
def felicaBlockIndexCrcCheck : Nat := 0xA0

/-- `felica_listener_get_block_index`, with the order of the file system. The check block has an
index behind it. -/
def felicaListenerGetBlockIndex (number : Nat) : Nat :=
  if felicaBlockIndexRc ≤ number ∧ number < felicaBlockIndexWcnt then
    number - 0x80 + felicaBlockIndexReg + 1
  else if felicaBlockIndexWcnt ≤ number ∧ number ≤ felicaBlockIndexState then
    number - 0x90 + 9 + felicaBlockIndexReg + 1
  else if number = felicaBlockIndexCrcCheck then number - 0x90 + 9 + felicaBlockIndexReg + 2
  else number

def FelicaData.numbered (data : FelicaData) (number : Nat) : FelicaBlockData :=
  data.block (felicaListenerGetBlockIndex number)

def FelicaData.setNumbered (data : FelicaData) (number : Nat) (value : FelicaBlockData) :
    FelicaData :=
  { data with block := Function.update data.block (felicaListenerGetBlockIndex number) value }

namespace FelicaData

variable (data : FelicaData)

/-- The blocks of `FelicaFileSystem`. -/
def reg : FelicaBlockData := data.numbered felicaBlockIndexReg
def rc : FelicaBlockData := data.numbered felicaBlockIndexRc
def ck : FelicaBlockData := data.numbered felicaBlockIndexCk
def mc : FelicaBlockData := data.numbered felicaBlockIndexMc
def state : FelicaBlockData := data.numbered felicaBlockIndexState

/-- The write counter. -/
def wcnt : BitVec 32 := (data.numbered felicaBlockIndexWcnt).load 32 0

def setWcnt (value : BitVec 32) : FelicaData :=
  data.setNumbered felicaBlockIndexWcnt ((data.numbered felicaBlockIndexWcnt).store 0 value)

/-- `FELICA_SYSTEM_BLOCK_RO_ACCESS`. -/
def systemBlockRoAccess : Bool := data.mc 2 == 0x00

/-- `FELICA_SYSTEM_BLOCK_RW_ACCESS`. -/
def systemBlockRwAccess : Bool := data.mc 2 == 0xFF

end FelicaData

/-! ### The write counter -/

/-- `felica_wcnt_get_max_value`; `none` for the `furi_crash`. -/
def felicaWcntGetMaxValue (data : FelicaData) : Option (BitVec 32) :=
  if !data.systemBlockRoAccess && !data.systemBlockRwAccess then none
  else some (if data.systemBlockRwAccess then 0x00FFFFFF else 0x00FFFE00)

def felicaWcntCheckWarningBoundary (data : FelicaData) : Bool :=
  data.systemBlockRoAccess && (0x00001027 < data.wcnt && data.wcnt < 0x00FFFDFF)

def felicaWcntCheckErrorBoundary (data : FelicaData) : Option Bool :=
  (felicaWcntGetMaxValue data).map fun wcntMax => data.wcnt != wcntMax

def felicaWcntIncrement (data : FelicaData) : Option FelicaData :=
  (felicaWcntGetMaxValue data).map fun wcntMax =>
    if data.wcnt < wcntMax then data.setWcnt (data.wcnt + 1) else data

def felicaWcntPostProcess (data : FelicaData) : FelicaData :=
  if data.systemBlockRoAccess && 0x00FFFE00 < data.wcnt then data.setWcnt 0 else data

/-! ### The MAC -/

def FelicaBlockData.bytes (block : FelicaBlockData) (n : Nat) : List (BitVec 8) :=
  (List.range n).map block

def felicaCalculateSessionKey (des3 : Des3) (ck rc : List (BitVec 8)) : List (BitVec 8) :=
  (des3.encrypt ((ck.take 8).reverse ++ ((ck.drop 8).take 8).reverse) (List.replicate 8 0)
    ((rc.take 8).reverse ++ ((rc.drop 8).take 8).reverse)).1

/-- `felica_calculate_mac`: a block before the data, and then the data in blocks of eight bytes. -/
def felicaCalculateMac (des3 : Des3) (sessionKey rc firstBlock data : List (BitVec 8))
    (length : Nat) : List (BitVec 8) :=
  ((firstBlock :: (List.range (length / 8)).map fun k => (data.drop (8 * k)).take 8).foldl
    (fun iv block => (des3.encrypt sessionKey iv block.reverse).1) (rc.take 8).reverse).reverse

def felicaCalculateMacRead (des3 : Des3) (sessionKey rc : List (BitVec 8)) (blocks : List Nat)
    (blockCount : Nat) (data : List (BitVec 8)) : List (BitVec 8) :=
  let firstBlock := blocks.flatMap (fun number => [BitVec.ofNat 8 number, 0]) ++
    List.replicate (8 - 2 * blocks.length) 0xFF
  felicaCalculateMac des3 sessionKey rc firstBlock data (16 * (blockCount - 1))

/-- `felica_calculate_mac_write`. The number of the block STATE stands for that of the block. -/
def felicaCalculateMacWrite (des3 : Des3) (sessionKey rc wcnt data : List (BitVec 8)) :
    List (BitVec 8) :=
  let firstBlock := wcnt.take 3 ++ [0, BitVec.ofNat 8 felicaBlockIndexState, 0,
    BitVec.ofNat 8 felicaBlockIndexMacA, 0]
  felicaCalculateMac des3 (sessionKey.drop 8 ++ sessionKey.take 8) rc firstBlock data 16

/-! ### State -/

/-- `FelicaListener`. `sent` is what it has transmitted, without the checksums. -/
structure FelicaListener where
  data : FelicaData
  internal : Bool
  external : Bool
  sessionKey : List (BitVec 8)
  mcShadow : FelicaBlockData
  rcWritten : Bool
  sent : List (List (BitVec 8))

/-- Set the first byte of the block STATE. -/
def FelicaData.setState (data : FelicaData) (value : BitVec 8) : FelicaData :=
  data.setNumbered felicaBlockIndexState (Function.update data.state 0 value)

def felicaListenerAlloc (data : FelicaData) : FelicaListener where
  data := data.setState 0
  internal := false
  external := false
  sessionKey := List.replicate 16 0
  mcShadow := data.mc
  rcWritten := false
  sent := []

def felicaListenerReset (s : FelicaListener) : FelicaListener :=
  { s with
    internal := false
    external := false
    rcWritten := false
    sessionKey := List.replicate 16 0
    data := felicaWcntPostProcess
      ((s.data.setState 0).setNumbered felicaBlockIndexMc s.mcShadow) }

/-! ### Permissions -/

def felicaBlockExists (number : Nat) : Bool :=
  !((felicaBlockIndexReg < number && number < felicaBlockIndexRc) ||
    (felicaBlockIndexMc < number && number < felicaBlockIndexWcnt) ||
    (felicaBlockIndexState < number && number < felicaBlockIndexCrcCheck) ||
    felicaBlockIndexCrcCheck < number)

def felicaGetMcBit (data : FelicaData) (byteIndex bitNumber : Nat) : Bool :=
  (data.mc.load 16 byteIndex).getLsbD bitNumber

/-- `felica_block_requires_auth`. The code of the command is the index of its flags. -/
def felicaBlockRequiresAuth (data : FelicaData) (command number : Nat) : Bool :=
  if number ≤ felicaBlockIndexReg then felicaGetMcBit data command number else false

def felicaBlockIsReadonly (data : FelicaData) (number : Nat) : Bool :=
  if number ≤ felicaBlockIndexReg then !felicaGetMcBit data 0 number
  else if number = felicaBlockIndexId ∨ number = felicaBlockIndexSerC ∨
      (felicaBlockIndexCkv ≤ number ∧ number ≤ felicaBlockIndexCk) then data.systemBlockRoAccess
  else number = felicaBlockIndexMac ∨ number = felicaBlockIndexWcnt ∨
    number = felicaBlockIndexDId ∨ number = felicaBlockIndexCrcCheck

def felicaBlockRequiresMac (data : FelicaData) (number : Nat) : Bool :=
  if number ≤ felicaBlockIndexReg then felicaGetMcBit data 10 number
  else if number = felicaBlockIndexCk ∨ number = felicaBlockIndexCkv then felicaGetMcBit data 5 0
  else if number = felicaBlockIndexState then felicaGetMcBit data 12 0
  else false

/-! ### The block list -/

/-- The size of a `FelicaBlockListElement`, `FELICA_LISTENER_BLOCK_LIST_ITEM_SIZE`. -/
def felicaItemSize (frame : Memory) (item : Nat) : Reads Nat := do
  let head ← readAt frame item
  pure (if head.getLsbD 7 then 2 else 3)

/-- `felica_listener_block_list_iterate`: the next element and the budget behind it. -/
def felicaListenerBlockListIterate (frame : Memory) (budget prevItem itemSize : Nat) :
    Reads (Option Nat × Nat) :=
  if 2 ≤ budget then do
    let nextItemSize ← felicaItemSize frame (prevItem + itemSize)
    pure (if budget < nextItemSize then (none, 0)
      else (some (prevItem + itemSize), budget - nextItemSize))
  else pure (none, budget)

/-- `felica_listener_block_list_item_get_first`. The budget is a `uint8_t`. -/
def felicaListenerBlockListItemGetFirst (frame : Memory) : Reads (Option Nat × Nat) := do
  let length ← readAt frame 0
  felicaListenerBlockListIterate frame ((length.toNat + 256 - 14) % 256) 14 0

def felicaListenerBlockListItemGetNext (frame : Memory) (item budget : Nat) :
    Reads (Option Nat × Nat) := do
  let size ← felicaItemSize frame item
  felicaListenerBlockListIterate frame budget item size

/-- The loop of `felica_listener_get_block_list_item_count_size`, for at most `n` elements: their
number and size. -/
def felicaCountItems (frame : Memory) (isWrite : Bool) :
    Nat → Option Nat → Nat → Nat → Nat → Reads (Nat × Nat)
  | n + 1, some item, budget, itemCnt, listSize => do
    let size ← felicaItemSize frame item
    let (next, budget) ← felicaListenerBlockListItemGetNext frame item
      (if isWrite then budget - 16 else budget)
    felicaCountItems frame isWrite n next budget (itemCnt + 1) (listSize + size)
  | _, _, _, itemCnt, listSize => pure (itemCnt, listSize)

def felicaListenerGetBlockListItemCountSize (frame : Memory) : Reads (Nat × Nat) := do
  let code ← readAt frame 1
  let (item, budget) ← felicaListenerBlockListItemGetFirst frame
  felicaCountItems frame (code == 0x08) (if code = 0x06 then 4 else 2) item budget 0 0

def felicaListenerTestBlockListSizeBounds (code blockCount : BitVec 8) : Bool :=
  if code = 0x06 then 1 ≤ blockCount && blockCount ≤ 4
  else if code = 0x08 then 1 ≤ blockCount && blockCount ≤ 2
  else false

def felicaListenerCheckWriteRequestDataSize (length : BitVec 8) (blockListSize factItemCnt : Nat) :
    Bool :=
  factItemCnt * 16 % 256 ≤ (length.toNat + 512 - 14 - blockListSize) % 256

/-- `felica_listener_check_block_list_size`, and the size of the list. -/
def felicaListenerCheckBlockListSize (frame : Memory) : Reads (Bool × Nat) := do
  let (itemCnt, listSize) ← felicaListenerGetBlockListItemCountSize frame
  let code ← readAt frame 1
  let tooFew ← (if code = 0x06 ∨ code = 0x08 then do
      let blockCount ← readAt frame 13
      pure (felicaListenerTestBlockListSizeBounds code blockCount &&
        decide (itemCnt < blockCount.toNat))
    else pure false)
  let length ← readAt frame 0
  pure (decide (0 < itemCnt) && !tooFew &&
    (code != 0x08 || felicaListenerCheckWriteRequestDataSize length listSize itemCnt), listSize)

/-- `felica_listener_block_list_item_validate_block_number`. -/
def felicaItemValidateBlockNumber (frame : Memory) (item : Nat) : Reads Bool := do
  let head ← readAt frame item
  if head.getLsbD 7 then pure true
  else do
    let d2 ← readAt frame (item + 2)
    pure (d2 == 0)

/-- The number of the block of an element. -/
def felicaItemNumber (frame : Memory) (item : Nat) : Reads Nat := do
  let number ← readAt frame (item + 1)
  pure number.toNat

end FlipperZero
