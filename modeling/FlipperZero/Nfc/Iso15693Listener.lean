import FlipperZero.Foundation.MachineInt
import FlipperZero.Foundation.Mealy
import FlipperZero.Foundation.Memory

/-!
# The ISO15693-3 listener

The emulated card of `iso15693_3_listener.c` and `iso15693_3_listener_i.c`: its data, the
handlers of the standard requests, and the run over the frames of a reader.

A plain card has no extension table, so the call of `iso15693_3_listener_extension_handler` in
the handlers gives no error and is left out. A handler gets a pointer into the received frame and
a size; what it reads behind the frame is whatever the buffer holds there. `none` stands for a
`furi_check` that stops the system.
-/

namespace FlipperZero

open Foundation

/-! ### The card -/

/-- `SimpleArray` of bytes. -/
structure SimpleArray where
  data : Memory
  count : Nat

namespace SimpleArray

/-- Read bytes from an element on; `simple_array_cget` checks the index of the first one only. -/
def cget (array : SimpleArray) (index size : Nat) : Option (List (BitVec 8)) :=
  if index < array.count then some ((List.range size).map fun j => array.data (index + j)) else none

/-- Copy bytes to an element and those behind it. -/
def copy (array : SimpleArray) (index : Nat) (bytes : List (BitVec 8)) : SimpleArray where
  data := array.data.copy index bytes
  count := array.count

end SimpleArray

structure Iso15693_3SystemInfo where
  flags : BitVec 8
  dsfid : BitVec 8
  afi : BitVec 8
  icRef : BitVec 8
  blockCount : BitVec 16
  blockSize : BitVec 8

structure Iso15693_3LockBits where
  dsfid : Bool
  afi : Bool

/-- `Iso15693_3Data`. The arrays have the sizes that loading and reading a card give them; the old
format had no block security status. -/
structure Iso15693_3Data where
  uid : Fin 8 → BitVec 8
  systemInfo : Iso15693_3SystemInfo
  lockBits : Iso15693_3LockBits
  blockData : SimpleArray
  blockSecurity : SimpleArray
  count_blockData : blockData.count = systemInfo.blockCount.toNat * systemInfo.blockSize.toNat
  count_blockSecurity : blockSecurity.count = 0 ∨
    blockSecurity.count = systemInfo.blockCount.toNat

-- the bytes of a uid are numbered with one instance in every module
lemma neZero_uidSize : NeZero 8 := ⟨by decide⟩

namespace Iso15693_3Data

variable (data : Iso15693_3Data)

/-- `system_info.block_count`. -/
def blockCount : Nat := data.systemInfo.blockCount.toNat

/-- `system_info.block_size`. -/
def blockSize : Nat := data.systemInfo.blockSize.toNat

/-- `iso15693_3_is_block_locked`, with the index cast to `uint8_t`. -/
def isBlockLocked (blockIndex : Nat) : Option Bool :=
  let blockIndex := blockIndex % 256
  if blockIndex < data.blockCount then
    if data.blockSecurity.count ≠ 0 then some (data.blockSecurity.data blockIndex != 0)
    else some false
  else none

/-- `iso15693_3_set_block_locked`. -/
def setBlockLocked (blockIndex : Nat) (locked : Bool) : Option Iso15693_3Data :=
  let blockIndex := blockIndex % 256
  if blockIndex < data.blockSecurity.count then
    some { data with
      blockSecurity := data.blockSecurity.copy blockIndex [if locked then 1 else 0] }
  else none

/-- `iso15693_3_set_block_data`. -/
def setBlockData (blockNum : Nat) (blockData : List (BitVec 8)) : Option Iso15693_3Data :=
  let blockOffset := blockNum % 256 * data.blockSize
  if blockOffset < data.blockData.count then
    some { data with blockData := data.blockData.copy blockOffset blockData }
  else none

/-- `iso15693_3_is_equal_uid`. -/
def isEqualUid (uid : Memory) : Bool :=
  (List.finRange 8).all fun i => data.uid i == uid (8 - i - 1)

end Iso15693_3Data

/-! ### The listener -/

/-- `Iso15693_3Error`, as far as the listener gives it. -/
inductive Iso15693_3Error where
  | none
  | format
  | ignore
  | notSupported
  | uidMismatch
  | unexpectedResponse
  | internal
  | unknown
  deriving DecidableEq, Repr

inductive Iso15693_3ListenerState where
  | ready
  | selected
  | quiet
  deriving DecidableEq, Repr

structure Iso15693_3ListenerSessionState where
  selected : Bool
  addressed : Bool
  waitForEof : Bool

structure Iso15693_3Listener where
  data : Iso15693_3Data
  state : Iso15693_3ListenerState
  sessionState : Iso15693_3ListenerSessionState
  txBuffer : List (BitVec 8)

/-- What became of a request: the result of its handler (or the reason why no handler took it) and
the frame that was sent at once, without its CRC. -/
structure Iso15693_3Reply where
  error : Iso15693_3Error
  sent : Option (List (BitVec 8))
  deriving DecidableEq

/-- Events of the reader: a frame with a right CRC (which is trimmed), a single EOF, a frame with
a wrong CRC. -/
inductive Iso15693_3NfcEvent where
  | frame (rxBuffer : Memory) (size : Nat)
  | eof
  | wrongCrc

namespace Iso15693_3Listener

variable (l : Iso15693_3Listener)

/-- `bit_buffer_append_bytes` on the transmit buffer of 256 bytes. -/
def append (bytes : List (BitVec 8)) : Option Iso15693_3Listener :=
  if l.txBuffer.length + bytes.length ≤ 256 then some { l with txBuffer := l.txBuffer ++ bytes }
  else none

/-- `iso15693_3_append_uid`. -/
def appendUid : Option Iso15693_3Listener :=
  l.append ((List.finRange 8).reverse.map l.data.uid)

/-- `iso15693_3_append_block`, with the number cast to `uint8_t`. -/
def appendBlock (blockNum : Nat) : Option Iso15693_3Listener :=
  (l.data.blockData.cget (blockNum % 256 * l.data.blockSize) l.data.blockSize).bind l.append

/-- `iso15693_3_append_block_security`. -/
def appendBlockSecurity (blockNum : Nat) : Option Iso15693_3Listener :=
  (l.data.blockSecurity.cget (blockNum % 256) 1).bind l.append

/-- `session_state.wait_for_eof = flags & ISO15693_3_REQ_FLAG_T4_OPTION`. -/
def setWaitForEof (flags : BitVec 8) : Iso15693_3Listener :=
  { l with sessionState := { l.sessionState with waitForEof := flags.getLsbD 6 } }

/-! ### The handlers -/

variable (data : Memory) (dataSize : Nat) (flags : BitVec 8)

def inventoryHandler : Option (Iso15693_3Error × Iso15693_3Listener) :=
  let afiFlag := flags.getLsbD 4
  let dataSizeMin := if afiFlag then 2 else 1
  if dataSize < dataSizeMin then some (.format, l)
  -- a request for another application family is ignored, though with an empty answer
  else if afiFlag ∧ data 0 ≠ 0 ∧ data 0 ≠ l.data.systemInfo.afi then some (.none, l)
  else
    let maskLen := (data (if afiFlag then 1 else 0)).toNat
    if dataSize ≠ dataSizeMin + maskLen then some (.format, l)
    else do
      let l ← l.append [l.data.systemInfo.dsfid]
      let l ← l.appendUid
      some (.none, l)

def stayQuietHandler : Option (Iso15693_3Error × Iso15693_3Listener) :=
  some (.ignore, { l with state := .quiet })

/-- The answer of the read requests for one block: its security status if the option flag asks
for it, and its data. -/
def appendBlockAnswer (blockNum : Nat) : Option Iso15693_3Listener :=
  (if flags.getLsbD 6 then l.appendBlockSecurity blockNum else some l).bind
    fun l => l.appendBlock blockNum

def readBlockHandler : Option (Iso15693_3Error × Iso15693_3Listener) :=
  if dataSize ≠ 1 then some (.format, l)
  else
    let blockIndex := (data 0).toNat
    if l.data.blockCount ≤ blockIndex then some (.internal, l)
    else do
      let l ← l.appendBlockAnswer flags blockIndex
      some (.none, l)

def writeBlockHandler : Option (Iso15693_3Error × Iso15693_3Listener) :=
  let l := l.setWaitForEof flags
  if dataSize ≤ 1 then some (.format, l)
  else
    let blockIndex := (data 0).toNat
    let blockSizeReceived := dataSize - 1
    if l.data.blockCount ≤ blockIndex then some (.internal, l)
    else if blockSizeReceived ≠ l.data.blockSize then some (.internal, l)
    else do
      if ← l.data.isBlockLocked blockIndex then some (.internal, l)
      else
        let card ← l.data.setBlockData blockIndex
          ((List.range blockSizeReceived).map fun j => data (1 + j))
        some (.none, { l with data := card })

def lockBlockHandler : Option (Iso15693_3Error × Iso15693_3Listener) :=
  let l := l.setWaitForEof flags
  if dataSize ≠ 1 then some (.format, l)
  else
    let blockIndex := (data 0).toNat
    if l.data.blockCount ≤ blockIndex then some (.internal, l)
    else do
      if ← l.data.isBlockLocked blockIndex then some (.internal, l)
      else
        let card ← l.data.setBlockLocked blockIndex true
        some (.none, { l with data := card })

/-- The loop of the multiple read over the blocks from a list. -/
def appendBlocks : List Nat → Iso15693_3Listener → Option Iso15693_3Listener
  | [], l => some l
  | i :: is, l => (l.appendBlockAnswer flags i).bind (appendBlocks is)

def readMultiBlocksHandler : Option (Iso15693_3Error × Iso15693_3Listener) :=
  if dataSize ≠ 2 then some (.format, l)
  else
    let blockIndexStart := (data 0).toNat
    let blockIndexEnd :=
      min (blockIndexStart + (data 1).toNat + 1) (asUInt32 (l.data.blockCount - 1))
    do
      let l ← appendBlocks flags
        (List.range' blockIndexStart (blockIndexEnd + 1 - blockIndexStart)) l
      some (.none, l)

/-- The first loop of the multiple write: it ends at the first locked block. -/
def anyBlockLocked (card : Iso15693_3Data) : List Nat → Option Bool
  | [] => some false
  | i :: is => (card.isBlockLocked i).bind fun locked =>
      if locked then some true else anyBlockLocked card is

/-- The second loop of the multiple write: the data for a block is a function of its index. -/
def setBlocks (blockData : Nat → List (BitVec 8)) : List Nat → Iso15693_3Data →
    Option Iso15693_3Data
  | [], card => some card
  | i :: is, card => (card.setBlockData i (blockData i)).bind (setBlocks blockData is)

def writeMultiBlocksHandler : Option (Iso15693_3Error × Iso15693_3Listener) :=
  let l := l.setWaitForEof flags
  if dataSize ≤ 2 then some (.format, l)
  else
    let blockIndexStart := (data 0).toNat
    let blockCount := (data 1).toNat + 1
    let blockCountAvailable := asUInt32 (l.data.blockCount - blockIndexStart)
    let blockSize := (dataSize - 2) / blockCount
    if blockCountAvailable < blockCount then some (.internal, l)
    else if blockSize ≠ l.data.blockSize then some (.internal, l)
    else do
      if ← anyBlockLocked l.data (List.range' blockIndexStart blockCount) then
        some (.internal, l)
      else
        -- the chunk for a block is looked up by the number of the block, not of the chunk
        let card ← setBlocks (fun i => (List.range blockSize).map fun j =>
          data (2 + blockSize * i + j)) (List.range' blockIndexStart blockCount) l.data
        some (.none, { l with data := card })

def selectHandler : Option (Iso15693_3Error × Iso15693_3Listener) :=
  if flags.getLsbD 5 then some (.none, { l with state := .selected }) else some (.format, l)

def resetToReadyHandler : Option (Iso15693_3Error × Iso15693_3Listener) :=
  some (.none, { l with state := .ready })

def writeAfiHandler : Option (Iso15693_3Error × Iso15693_3Listener) :=
  let l := l.setWaitForEof flags
  if dataSize ≤ 1 then some (.format, l)
  else if l.data.lockBits.afi then some (.internal, l)
  else some (.none,
    { l with data := { l.data with systemInfo := { l.data.systemInfo with afi := data 0 } } })

def lockAfiHandler : Option (Iso15693_3Error × Iso15693_3Listener) :=
  let l := l.setWaitForEof flags
  if l.data.lockBits.afi then some (.internal, l)
  else some (.none,
    { l with data := { l.data with lockBits := { l.data.lockBits with afi := true } } })

def writeDsfidHandler : Option (Iso15693_3Error × Iso15693_3Listener) :=
  let l := l.setWaitForEof flags
  if dataSize ≤ 1 then some (.format, l)
  else if l.data.lockBits.dsfid then some (.internal, l)
  else some (.none,
    { l with data := { l.data with systemInfo := { l.data.systemInfo with dsfid := data 0 } } })

def lockDsfidHandler : Option (Iso15693_3Error × Iso15693_3Listener) :=
  let l := l.setWaitForEof flags
  if l.data.lockBits.dsfid then some (.internal, l)
  else some (.none,
    { l with data := { l.data with lockBits := { l.data.lockBits with dsfid := true } } })

/-- Append a field of the system information if its flag is set. -/
def appendField (flag : Bool) (bytes : List (BitVec 8)) : Option Iso15693_3Listener :=
  if flag then l.append bytes else some l

def getSystemInfoHandler : Option (Iso15693_3Error × Iso15693_3Listener) := do
  let info := l.data.systemInfo
  let l ← l.append [info.flags]
  let l ← l.appendUid
  let l ← l.appendField (info.flags.getLsbD 0) [info.dsfid]
  let l ← l.appendField (info.flags.getLsbD 1) [info.afi]
  let l ← l.appendField (info.flags.getLsbD 2)
    [(info.blockCount - 1).setWidth 8, info.blockSize - 1]
  let l ← l.appendField (info.flags.getLsbD 3) [info.icRef]
  some (.none, l)

/-- The loop over the security status of the blocks from a list. -/
def appendBlocksLocked : List Nat → Iso15693_3Listener → Option Iso15693_3Listener
  | [], l => some l
  | i :: is, l => do
    let locked ← l.data.isBlockLocked i
    (l.append [if locked then 1 else 0]).bind (appendBlocksLocked is)

def getMultiBlocksSecurityHandler : Option (Iso15693_3Error × Iso15693_3Listener) :=
  if dataSize < 2 then some (.format, l)
  else
    let blockIndexStart := (data 0).toNat
    let blockIndexEnd := blockIndexStart + (data 1).toNat
    if l.data.blockCount ≤ blockIndexEnd then some (.internal, l)
    else do
      let l ← appendBlocksLocked (List.range' blockIndexStart ((data 1).toNat + 1)) l
      some (.none, l)

/-! ### Requests -/

/-- `iso15693_3_handler_table`: the handler of a command, if it has one. -/
def handler (command : BitVec 8) :
    Option (Option (Iso15693_3Error × Iso15693_3Listener)) :=
  match command with
  | 0x01#8 => some (l.inventoryHandler data dataSize flags)
  | 0x02#8 => some l.stayQuietHandler
  | 0x20#8 => some (l.readBlockHandler data dataSize flags)
  | 0x21#8 => some (l.writeBlockHandler data dataSize flags)
  | 0x22#8 => some (l.lockBlockHandler data dataSize flags)
  | 0x23#8 => some (l.readMultiBlocksHandler data dataSize flags)
  | 0x24#8 => some (l.writeMultiBlocksHandler data dataSize flags)
  | 0x25#8 => some (l.selectHandler flags)
  | 0x26#8 => some l.resetToReadyHandler
  | 0x27#8 => some (l.writeAfiHandler data dataSize flags)
  | 0x28#8 => some (l.lockAfiHandler flags)
  | 0x29#8 => some (l.writeDsfidHandler data dataSize flags)
  | 0x2A#8 => some (l.lockDsfidHandler flags)
  | 0x2B#8 => some l.getSystemInfoHandler
  | 0x2C#8 => some (l.getMultiBlocksSecurityHandler data dataSize)
  | _ => none

/-- `iso15693_3_listener_send_frame`: the frame, if the buffer has room for the CRC. -/
def sendFrame : Option (List (BitVec 8)) :=
  if l.txBuffer.length + 2 ≤ 256 then some l.txBuffer else none

/-- The second half of `iso15693_3_listener_handle_standard_request`: the answer to the result of
a handler. -/
def answer (error : Iso15693_3Error) : Option (Iso15693_3Reply × Iso15693_3Listener) :=
  if error = .format ∨ error = .ignore then some (⟨error, none⟩, l)
  else
    let l := if error = .none then l else { l with txBuffer := [1, 0x0F] }
    if l.sessionState.waitForEof then some (⟨error, none⟩, l)
    else l.sendFrame.map fun frame => (⟨error, some frame⟩, l)

/-- `iso15693_3_listener_handle_standard_request`. The command code 0 calls what lies in front of
the table of handlers. -/
def handleStandardRequest (command : BitVec 8) :
    Option (Iso15693_3Reply × Iso15693_3Listener) :=
  if command = 0 then none
  else
    match { l with txBuffer := [0] }.handler data dataSize flags command with
    | none => some (⟨.notSupported, none⟩, l)
    | some result => result.bind fun (error, l) => l.answer error

def handleCustomRequest : Iso15693_3Error :=
  if dataSize < 1 then .format
  else if data 0 ≠ l.data.uid 1 then .ignore
  else .notSupported

/-- The first half of `iso15693_3_listener_process_request`: the mode of the request and whether
the card takes it in its state. -/
def selectMode : Iso15693_3Error × Iso15693_3Listener :=
  if flags.getLsbD 2 = false then
    let selected := flags.getLsbD 4
    let addressed := flags.getLsbD 5
    let next := { l with
      sessionState := { l.sessionState with selected := selected, addressed := addressed } }
    if selected ∧ addressed then (.unknown, next)
    else if l.state = .quiet then if addressed then (.ignore, next) else (.none, next)
    else if l.state ≠ .selected then if selected then (.ignore, next) else (.none, next)
    else (.none, next)
  else if l.state = .quiet then (.ignore, l)
  else (.none, { l with
    sessionState := { l.sessionState with selected := false, addressed := false } })

def processRequest (rxBuffer : Memory) (bufSize : Nat) :
    Option (Iso15693_3Reply × Iso15693_3Listener) :=
  if bufSize < 2 then some (⟨.format, none⟩, l)
  else
    let flags := rxBuffer 0
    let command := rxBuffer 1
    let data : Memory := fun i => rxBuffer (2 + i)
    let (error, l) := l.selectMode flags
    if error ≠ .none then some (⟨error, none⟩, l)
    else if 0xA0 ≤ command.toNat then
      some (⟨l.handleCustomRequest data (bufSize - 2), none⟩, l)
    else if l.sessionState.addressed then
      if bufSize < 10 then some (⟨.format, none⟩, l)
      else if l.data.isEqualUid data = false then some (⟨.uidMismatch, none⟩, l)
      else l.handleStandardRequest (fun i => rxBuffer (10 + i)) (bufSize - 10) flags command
    else l.handleStandardRequest data (bufSize - 2) flags command

def processUidMismatch (rxBuffer : Memory) : Iso15693_3Listener :=
  if rxBuffer 1 = 0x25 ∧ l.state = .selected then { l with state := .ready } else l

def processSingleEof : Option (Iso15693_3Reply × Iso15693_3Listener) :=
  if l.sessionState.waitForEof then
    let l := { l with sessionState := { l.sessionState with waitForEof := false } }
    l.sendFrame.map fun frame => (⟨.none, some frame⟩, l)
  else some (⟨.unexpectedResponse, none⟩, l)

/-- `iso15693_3_listener_run` on the end of a reception. -/
def run : Iso15693_3NfcEvent → Option (Iso15693_3Reply × Iso15693_3Listener)
  | .frame rxBuffer size =>
    let l := { l with txBuffer := [] }
    (l.processRequest rxBuffer size).map fun (reply, l) =>
      (reply, if reply.error = .uidMismatch then l.processUidMismatch rxBuffer else l)
  | .eof => { l with txBuffer := [] }.processSingleEof
  | .wrongCrc => some (⟨.none, none⟩, { l with txBuffer := [] })

end Iso15693_3Listener

/-- The listener as a machine over the events of the reader. After a failed check it stays where
it was, without a reply. -/
def iso15693_3Listener : Mealy Iso15693_3Listener Iso15693_3NfcEvent (Option Iso15693_3Reply) where
  step l event :=
    match l.run event with
    | some (reply, l') => (some reply, l')
    | none => (none, l)

end FlipperZero
