import FlipperZero.Foundation.Mealy
import FlipperZero.Foundation.Reads
import FlipperZero.Toolbox.BitBuffer

/-!
# The block layer of ISO 14443-4

`Iso14443_4Layer` keeps the PCB byte of the next block and that of the last one. A received block
is decoded by the kind of the last block sent. Neither decoder looks at the length of the received
block before it reads the PCB or removes it.
-/

namespace FlipperZero

open Foundation

namespace BitBuffer

variable (buf : BitBuffer)

/-- `bit_buffer_get_byte` with its check, which is about the capacity. -/
def readByte (index : Nat) : Reads (BitVec 8) :=
  if index < buf.capacityBytes then .readAt buf.data index else .check none

def startsWithByte (byte : BitVec 8) : Reads Bool :=
  if buf.getSizeBytes ≠ 0 then do
    let first ← .readAt buf.data 0
    return first == byte
  else return false

/-- `bit_buffer_copy_right` with its reads. -/
def readRight (other : BitBuffer) (startIndex : Nat) : Reads BitBuffer :=
  .readRange startIndex (other.getSizeBytes - startIndex) (buf.copyRight other startIndex)

end BitBuffer

structure Iso14443_4Layer where
  pcb : BitVec 8
  pcbPrev : BitVec 8
deriving DecidableEq

inductive Iso14443_4aError where
  | none
  | notPresent
  | protocol
  | timeout
  | sendExtra
deriving DecidableEq

namespace Iso14443_4Layer

/-! ### The PCB byte -/

/-- `ISO14443_4_BLOCK_PCB_BITS_ACTIVE`. -/
def bitsActive (pcb mask : BitVec 8) : Bool := pcb &&& mask == mask

/-- `ISO14443_4_BLOCK_PCB_IS_R_BLOCK`. -/
def isRBlock (pcb : BitVec 8) : Bool := bitsActive pcb 0xA0

/-- `ISO14443_4_BLOCK_PCB_IS_S_BLOCK`. -/
def isSBlock (pcb : BitVec 8) : Bool := bitsActive pcb 0xC0

/-- `ISO14443_4_BLOCK_PCB_IS_CHAIN_ACTIVE`. -/
def isChainActive (pcb : BitVec 8) : Bool := bitsActive pcb 0x10

/-- `ISO14443_4_BLOCK_PCB_R_NACK_ACTIVE`. -/
def rNackActive (pcb : BitVec 8) : Bool := bitsActive pcb 0x10

/-- A flag at its offset in the PCB byte. -/
def flag (b : Bool) (offset : Nat) : BitVec 8 := (BitVec.ofBool b).setWidth 8 <<< offset

variable (layer : Iso14443_4Layer)

def updatePcb : Iso14443_4Layer where
  pcbPrev := layer.pcb
  pcb := layer.pcb ^^^ 0x01

def reset : Iso14443_4Layer where
  pcbPrev := 0
  pcb := 0x00 ||| 0x02

def setIBlock (chaining cidPresent : Bool) : Iso14443_4Layer :=
  { layer with pcb := 0x00 ||| flag chaining 4 ||| flag cidPresent 3 ||| layer.pcb &&& 0x03 }

def setRBlock (acknowledged cidPresent : Bool) : Iso14443_4Layer :=
  { layer with
    pcb := 0xA0 ||| flag (!acknowledged) 4 ||| flag cidPresent 3 ||| layer.pcb &&& 0x03 }

def setSBlock (deselect cidPresent : Bool) : Iso14443_4Layer :=
  let desWtx : BitVec 8 := if !deselect then 0x30 else 0
  { layer with pcb := 0xC0 ||| desWtx ||| flag cidPresent 3 ||| 0x02 }

/-! ### Blocks -/

def encodeBlock (inputData blockData : BitBuffer) : Option (Iso14443_4Layer × BitBuffer) := do
  let blockData ← blockData.appendByte layer.pcb
  let blockData ← blockData.append inputData
  return (layer.updatePcb, blockData)

def getResponsePcb (blockData : BitBuffer) : Reads (BitVec 8) := .readAt blockData.data 0

/-- `iso14443_4_layer_decode_block`: the return value, the layer and the output. -/
def decodeBlock (outputData blockData : BitBuffer) : Reads (Bool × Iso14443_4Layer × BitBuffer) :=
  if isRBlock layer.pcbPrev then do
    let responsePcb ← getResponsePcb blockData
    let ret := isRBlock responsePcb && !rNackActive responsePcb
    return (ret, updatePcb { layer with pcb := layer.pcb &&& 0x03 }, outputData)
  else if isChainActive layer.pcbPrev then do
    let responsePcb ← getResponsePcb blockData
    let ret := isRBlock responsePcb && !rNackActive responsePcb
    return (ret, { layer with pcb := layer.pcb &&& ~~~0x10 }, outputData)
  else if isSBlock layer.pcbPrev then do
    let ret ← blockData.startsWithByte layer.pcbPrev
    if 1 < blockData.getSizeBytes then
      let outputData ← outputData.readRight blockData 1
      return (ret, layer, outputData)
    else return (ret, layer, outputData)
  else do
    let starts ← blockData.startsWithByte layer.pcbPrev
    if starts then
      let outputData ← outputData.readRight blockData 1
      return (true, layer, outputData)
    else return (false, layer, outputData)

/-- The switch of `iso14443_4_layer_decode_block_pwt_ext`: the error and the output. -/
def decodeByType (outputData blockData : BitBuffer) (pcbField : BitVec 8) :
    Reads (Iso14443_4aError × BitBuffer) :=
  if pcbField &&& 0xC0 = 0x00 then
    if pcbField = layer.pcbPrev then do
      let outputData ← outputData.readRight blockData 1
      return (.none, outputData)
    -- the caller sends the original request again
    else return (.sendExtra, outputData)
  else if pcbField &&& 0xC0 = 0x80 then return (.protocol, outputData)
  else if pcbField &&& 0xC0 = 0xC0 then
    if pcbField &&& 0x30 = 0x30 then do
      let infField ← blockData.readByte 1
      let wtxm := infField &&& 0x3F
      let outputData ← .check (outputData.appendByte (0xC0 ||| 0x30 ||| 0x02))
      let outputData ← .check (outputData.appendByte wtxm)
      return (.sendExtra, outputData)
    else return (.protocol, outputData)
  else return (.protocol, outputData)

/-- `iso14443_4_layer_decode_block_pwt_ext`. It leaves the layer as it is, and logs the block
unless it was decoded. -/
def decodeBlockPwtExt (outputData blockData : BitBuffer) : Reads (Iso14443_4aError × BitBuffer) := do
  let pcbField ← blockData.readByte 0
  let (ret, outputData) ← layer.decodeByType outputData.reset blockData pcbField
  if ret ≠ .none then
    forM (List.range blockData.getSizeBytes) fun x => do
      let _ ← blockData.readByte x
      return ()
    return (ret, outputData)
  else return (ret, outputData)

end Iso14443_4Layer

end FlipperZero
