import FlipperZero.Nfc.Crypto1
import FlipperZero.Nfc.MfClassic
import FlipperZero.Nfc.MfUltralightListener

/-!
# The listener of MIFARE Classic

`mf_classic_listener_run` answers the frames of a reader from the data of an emulated card. A
command takes up to three frames, each with a handler of its own. The handlers check the sector,
the number and the access bits of a block in different frames.

A handler gets the random number that it may need for a nonce. `none` stands for a `furi_check`
that stops the system. The frames in the two transmit buffers are sent by the layer below, and
the application is told of an authentication; neither changes the listener.
-/

namespace FlipperZero

open Foundation

/-! ### Frames -/

/-- `bit_lib_num_to_bytes_be`, for four bytes. -/
def numToBytesBe (x : BitVec 32) : List (BitVec 8) :=
  [x.extractLsb' 24 8, x.extractLsb' 16 8, x.extractLsb' 8 8, x.extractLsb' 0 8]

/-- `bit_lib_bytes_to_num_be`, for four bytes. -/
def bytesToNumBe (bytes : List (BitVec 8)) : BitVec 32 :=
  bytes.getD 0 0 ++ bytes.getD 1 0 ++ bytes.getD 2 0 ++ bytes.getD 3 0

/-- `iso14443_crc_calculate` of type A. -/
def iso14443CrcCalculate (bytes : List (BitVec 8)) : BitVec 16 :=
  bytes.foldl (fun crc byte =>
    let byte := byte ^^^ crc.setWidth 8
    let byte := byte ^^^ byte <<< 4
    crc >>> 8 ^^^ byte.setWidth 16 <<< 8 ^^^ byte.setWidth 16 <<< 3 ^^^ byte.setWidth 16 >>> 4) 0x6363

def iso14443CrcAppend (buf : BitBuffer) : Option BitBuffer :=
  let crc := iso14443CrcCalculate (buf.bytes 0 buf.getSizeBytes)
  buf.appendBytes [crc.extractLsb' 0 8, crc.extractLsb' 8 8]

def iso14443CrcCheck (buf : BitBuffer) : Bool :=
  if buf.getSizeBytes ≤ 2 then false
  else
    let size := buf.getSizeBytes - 2
    iso14443CrcCalculate (buf.bytes 0 size) == buf.data (size + 1) ++ buf.data size

def iso14443CrcTrim (buf : BitBuffer) : Option BitBuffer := buf.setSizeBytes (buf.getSizeBytes - 2)

/-! ### State -/

inductive MfClassicListenerCommand where
  | processed
  | ack
  | nack
  | silent
  | sleep
  deriving DecidableEq, Repr

inductive MfClassicListenerState where
  | idle
  | authComplete
  deriving DecidableEq, Repr

inductive MfClassicListenerCommState where
  | plain
  | encrypted
  deriving DecidableEq, Repr

inductive MfClassicValueCommand where
  | increment
  | decrement
  | restore
  | invalid
  deriving DecidableEq, Repr

/-- `MfClassicAuthContext`. The nonces and answers are numbers. -/
structure MfClassicAuthContext where
  blockNum : BitVec 8
  keyType : MfClassicKeyType
  nt : BitVec 32
  nr : BitVec 32
  ar : BitVec 32
  at_ : BitVec 32
  deriving DecidableEq, Repr

structure MfClassicListener where
  state : MfClassicListenerState
  commState : MfClassicListenerCommState
  data : MfClassicData
  txPlainBuffer : BitBuffer
  txEncryptedBuffer : BitBuffer
  rxPlainBuffer : BitBuffer
  crypto : Crypto1
  authContext : MfClassicAuthContext
  writeBlock : BitVec 8
  transferValue : BitVec 32
  transferValid : Bool
  valueCmd : MfClassicValueCommand
  cmdInProgress : Bool
  currentCmdIdx : Nat
  currentCmdHandlerIdx : Nat
  totalBlockNum : Nat

/-- `MfClassicListenerCommandHandler`, with a random number. -/
abbrev MfClassicListenerCommandHandler :=
  MfClassicListener → BitBuffer → BitVec 32 → Option (MfClassicListenerCommand × MfClassicListener)

/-- `mf_classic_listener_alloc`. The buffers hold `MF_CLASSIC_MAX_BUFF_SIZE` bytes. -/
def mfClassicListenerAlloc (data : MfClassicData) : MfClassicListener where
  state := .idle
  commState := .plain
  data := data
  txPlainBuffer := .alloc 64
  txEncryptedBuffer := .alloc 64
  rxPlainBuffer := .alloc 64
  crypto := crypto1Reset
  authContext := ⟨0, .a, 0, 0, 0, 0⟩
  writeBlock := 0
  transferValue := 0
  transferValid := false
  valueCmd := .increment
  cmdInProgress := false
  currentCmdIdx := 0
  currentCmdHandlerIdx := 0
  totalBlockNum := mfClassicGetTotalBlockNum data.type

namespace MfClassicListener

def resetState (s : MfClassicListener) : MfClassicListener :=
  { s with
    crypto := crypto1Reset
    authContext := ⟨0, .a, 0, 0, 0, 0⟩
    commState := .plain
    state := .idle
    cmdInProgress := false
    currentCmdHandlerIdx := 0
    writeBlock := 0
    transferValue := 0
    transferValid := false
    valueCmd := .invalid }

/-- A handler leaves the command open for another frame. -/
def nextFrame (s : MfClassicListener) : MfClassicListener :=
  { s with cmdInProgress := true, currentCmdHandlerIdx := s.currentCmdHandlerIdx + 1 }

/-- The sector of the block that the reader has named for the authentication. -/
def authSector (s : MfClassicListener) : Nat := mfClassicGetSectorByBlock s.authContext.blockNum

/-- `mf_classic_is_allowed_access` with the key of the authentication. -/
def isAllowed (s : MfClassicListener) (block : BitVec 8) (action : MfClassicAction) : Bool :=
  s.data.isAllowedAccess block s.authContext.keyType action

def encrypt (s : MfClassicListener) (keystream : List (BitVec 8)) : Option MfClassicListener :=
  (crypto1Encrypt s.crypto keystream s.txPlainBuffer s.txEncryptedBuffer).map fun r =>
    { s with crypto := r.1, txEncryptedBuffer := r.2 }

end MfClassicListener

/-! ### Handlers -/

def mfClassicListenerHaltHandler : MfClassicListenerCommandHandler := fun s buff _ =>
  some (if buff.getByte 1 = 0 then .sleep else .nack, s)

/-- The nonce of `mf_classic_listener_auth_first_part_handler`, with a new key. A nonce inside a
session is encrypted. -/
def mfClassicListenerSendNonce (s : MfClassicListener) (nt : BitVec 32) : Option MfClassicListener :=
  if s.commState = .plain then
    (s.txEncryptedBuffer.copyBytes (numToBytesBe nt)).map fun tx =>
      { s with
        crypto := (crypto1Word s.crypto (nt ^^^ s.data.cuid) false).2
        txEncryptedBuffer := tx }
  else
    (s.txPlainBuffer.copyBytes (numToBytesBe nt)).bind fun tx =>
      { s with txPlainBuffer := tx }.encrypt (numToBytesBe (nt ^^^ s.data.cuid))

def mfClassicListenerAuthFirstPartHandler (keyType : MfClassicKeyType) :
    MfClassicListenerCommandHandler := fun s buff nt =>
  let block := buff.getByte 1
  let s := { s with state := .idle }
  if s.totalBlockNum ≤ block.toNat then some (.nack, s)
  else
    let key := s.data.getKey (mfClassicGetSectorByBlock block) keyType
    (mfClassicListenerSendNonce
      { s with
        authContext := { s.authContext with keyType := keyType, blockNum := block, nt := nt }
        crypto := crypto1Init key } nt).map fun s => (.processed, s.nextFrame)

/-- The answer of `mf_classic_listener_auth_second_part_handler` to a reader that knows the key. -/
def mfClassicListenerSendAnswer (s : MfClassicListener) : Option MfClassicListener :=
  let atNum := crypto1PrngSuccessor s.authContext.nt 96
  (s.txPlainBuffer.copyBytes (numToBytesBe atNum)).bind fun tx =>
    { s with authContext := { s.authContext with at_ := atNum }, txPlainBuffer := tx }.encrypt []

def mfClassicListenerAuthSecondPartHandler : MfClassicListenerCommandHandler := fun s buff _ =>
  let s := { s with cmdInProgress := false }
  if buff.getSizeBytes ≠ 8 then some (.sleep, s)
  else
    let nr := bytesToNumBe (buff.bytes 0 4)
    let ar := bytesToNumBe (buff.bytes 4 4)
    let crypto := (crypto1Word s.crypto nr true).2
    let (ks, crypto) := crypto1Word crypto 0 false
    let s := { s with authContext := { s.authContext with nr := nr, ar := ar }, crypto := crypto }
    if ar ^^^ ks ≠ crypto1PrngSuccessor s.authContext.nt 64 then some (.sleep, s)
    else
      (mfClassicListenerSendAnswer s).map fun s =>
        (.processed, { s with state := .authComplete, commState := .encrypted })

/-- The block that `mf_classic_listener_read_block_handler` sends: a sector trailer without what the
key may not read; `none` when nothing may be read. -/
def mfClassicReadableBlock (s : MfClassicListener) (block : BitVec 8) : Option MfClassicBlock :=
  let accessBlock := s.data.block block
  if mfClassicIsSectorTrailer block then
    some fun i =>
      if i.val < 6 then if s.isAllowed block .keyARead then accessBlock i else 0
      else if i.val < 10 then if s.isAllowed block .acRead then accessBlock i else 0
      else if s.isAllowed block .keyBRead then accessBlock i
      else 0
  else if s.isAllowed block .dataRead then some accessBlock
  else none

def mfClassicListenerReadBlockHandler : MfClassicListenerCommandHandler := fun s buff _ =>
  let block := buff.getByte 1
  if s.state ≠ .authComplete then some (.nack, s)
  else if mfClassicGetSectorByBlock block ≠ s.authSector then some (.nack, s)
  else
    match mfClassicReadableBlock s block with
    | none             => some (.nack, s)
    | some accessBlock =>
      ((s.txPlainBuffer.copyBytes (List.ofFn accessBlock)).bind iso14443CrcAppend).bind fun tx =>
        ({ s with txPlainBuffer := tx }.encrypt []).map fun s => (.processed, s)

def mfClassicListenerWriteBlockFirstPartHandler : MfClassicListenerCommandHandler := fun s buff _ =>
  let block := buff.getByte 1
  if s.state ≠ .authComplete then some (.nack, s)
  else if s.totalBlockNum ≤ block.toNat then some (.nack, s)
  else if block = 0 then some (.nack, s)
  else if mfClassicGetSectorByBlock block ≠ s.authSector then some (.nack, s)
  else some (.ack, { s with writeBlock := block }.nextFrame)

/-- What `mf_classic_listener_write_block_second_part_handler` makes of a block: a sector trailer
gets what the key may write; `none` when nothing may be written. -/
def mfClassicWrittenBlock (s : MfClassicListener) (block : BitVec 8) (bytes : Memory) :
    Option MfClassicBlock :=
  if mfClassicIsSectorTrailer block then
    if s.isAllowed block .keyAWrite || s.isAllowed block .keyBWrite || s.isAllowed block .acWrite then
      some fun i =>
        if i.val < 6 then
          if s.isAllowed block .keyAWrite then bytes i else s.data.block block i
        else if i.val < 10 then
          if s.isAllowed block .acWrite then bytes i else s.data.block block i
        else if s.isAllowed block .keyBWrite then bytes i
        else s.data.block block i
    else none
  else if s.isAllowed block .dataWrite then some fun i => bytes i
  else none

def mfClassicListenerWriteBlockSecondPartHandler : MfClassicListenerCommandHandler := fun s buff _ =>
  let s := { s with cmdInProgress := false }
  if buff.getSizeBytes ≠ 16 then some (.nack, s)
  else
    match mfClassicWrittenBlock s s.writeBlock buff.data with
    | none       => some (.nack, s)
    | some block => some (.ack, { s with data := s.data.setBlock s.writeBlock block })

/-- The command and the action of the first byte of a value command. -/
def mfClassicValueCommandOf (cmd : BitVec 8) : Option (MfClassicValueCommand × MfClassicAction) :=
  if cmd = 0xC0 then some (.decrement, .dataDec)
  else if cmd = 0xC1 then some (.increment, .dataInc)
  else if cmd = 0xC2 then some (.restore, .dataDec)
  else none

def mfClassicListenerValueCmdHandler : MfClassicListenerCommandHandler := fun s buff _ =>
  let block := buff.getByte 1
  if s.state ≠ .authComplete then some (.nack, s)
  else if s.totalBlockNum ≤ block.toNat then some (.nack, s)
  else if mfClassicGetSectorByBlock block ≠ s.authSector then some (.nack, s)
  else
    match mfClassicValueCommandOf (buff.getByte 0) with
    | none               => some (.nack, s)
    | some (cmd, action) =>
      let s := { s with valueCmd := cmd }
      if s.isAllowed block action = false then some (.nack, s)
      else
        let r := mfClassicBlockToValue (s.data.block block)
        let s := { s with transferValue := r.2 }
        if r.1 = false then some (.nack, s)
        else some (.ack, { s with transferValid := true }.nextFrame)

def mfClassicListenerValueDataReceiveHandler : MfClassicListenerCommandHandler := fun s buff _ =>
  if buff.getSizeBytes ≠ 4 then some (.nack, s)
  else
    let data := buff.data 3 ++ buff.data 2 ++ buff.data 1 ++ buff.data 0
    let data := if data.msb then -data else data
    let data :=
      match s.valueCmd with
      | .decrement => -data
      | .restore   => 0
      | _          => data
    some (.silent,
      { s with transferValue := s.transferValue + data, transferValid := true }.nextFrame)

def mfClassicListenerValueTransferHandler : MfClassicListenerCommandHandler := fun s buff _ =>
  let s := { s with cmdInProgress := false }
  let block := buff.getByte 1
  if buff.getSizeBytes ≠ 2 then some (.nack, s)
  else if buff.getByte 0 ≠ 0xB0 then some (.nack, s)
  else if s.isAllowed block .dataDec = false then some (.nack, s)
  else
    some (.ack, { s with
      data := s.data.setBlock block (mfClassicValueToBlock s.transferValue block)
      transferValue := 0
      transferValid := false })

/-! ### Running -/

structure MfClassicListenerCmd where
  cmdStartByte : BitVec 8
  cmdLenBits : Nat
  handler : List MfClassicListenerCommandHandler

def mfClassicListenerValueHandlers : List MfClassicListenerCommandHandler :=
  [mfClassicListenerValueCmdHandler, mfClassicListenerValueDataReceiveHandler,
    mfClassicListenerValueTransferHandler]

/-- `mf_classic_listener_cmd_handlers`. Some readers halt a card with 15 bits. -/
def mfClassicListenerCmdHandlers : List MfClassicListenerCmd :=
  [⟨0x50, 2 * 8, [mfClassicListenerHaltHandler]⟩,
    ⟨0x50, 15, [mfClassicListenerHaltHandler]⟩,
    ⟨0x60, 2 * 8,
      [mfClassicListenerAuthFirstPartHandler .a, mfClassicListenerAuthSecondPartHandler]⟩,
    ⟨0x61, 2 * 8,
      [mfClassicListenerAuthFirstPartHandler .b, mfClassicListenerAuthSecondPartHandler]⟩,
    ⟨0x30, 2 * 8, [mfClassicListenerReadBlockHandler]⟩,
    ⟨0xA0, 2 * 8,
      [mfClassicListenerWriteBlockFirstPartHandler, mfClassicListenerWriteBlockSecondPartHandler]⟩,
    ⟨0xC0, 2 * 8, mfClassicListenerValueHandlers⟩,
    ⟨0xC1, 2 * 8, mfClassicListenerValueHandlers⟩,
    ⟨0xC2, 2 * 8, mfClassicListenerValueHandlers⟩]

def mfClassicListenerSendShortFrame (s : MfClassicListener) (data : BitVec 8) :
    Option MfClassicListener :=
  ((s.txPlainBuffer.setSize 4).bind fun tx => tx.setByte 0 data).bind fun tx =>
    let s := { s with txPlainBuffer := tx }
    if s.commState = .encrypted then s.encrypt [] else some s

/-- The events that `mf_classic_listener_run` gets. A received frame comes with a random number;
`other` are those that it ignores. -/
inductive MfClassicListenerEvent where
  | fieldOff
  | received (buffer : BitBuffer) (random : BitVec 32)
  | halted
  | other

/-- The plain frame: inside a session it is decrypted, and its checksum cut off when it is
right. -/
def mfClassicListenerPlainFrame (s : MfClassicListener) (buffer : BitBuffer) :
    Option (BitBuffer × MfClassicListener) :=
  if s.commState = .encrypted ∧ s.state = .authComplete then
    (crypto1Decrypt s.crypto buffer s.rxPlainBuffer).bind fun (crypto, rx) =>
      (if iso14443CrcCheck rx then iso14443CrcTrim rx else some rx).map fun rx =>
        (rx, { s with crypto := crypto, rxPlainBuffer := rx })
  else some (buffer, s)

/-- The handler of a plain frame: the next one of a command in progress, or the first one of the
command that the frame starts. -/
def mfClassicListenerHandle : MfClassicListenerCommandHandler := fun s rx random =>
  if s.cmdInProgress then
    mfClassicListenerCmdHandlers[s.currentCmdIdx]?.bind fun cmd =>
      cmd.handler[s.currentCmdHandlerIdx]?.bind fun handler => handler s rx random
  else
    match mfClassicListenerCmdHandlers.findIdx? fun cmd =>
        rx.getSize == cmd.cmdLenBits && rx.getByte 0 == cmd.cmdStartByte with
    | none   => some (.nack, s)
    | some i =>
      mfClassicListenerCmdHandlers[i]?.bind fun cmd =>
        cmd.handler[0]?.bind fun handler =>
          handler { s with currentCmdIdx := i, currentCmdHandlerIdx := 0 } rx random

/-- What `mf_classic_listener_run` does with the result of a handler. -/
def mfClassicListenerReply (s : MfClassicListener) :
    MfClassicListenerCommand → Option (NfcCommand × MfClassicListener)
  | .processed => some (.continue_, s)
  | .ack       => (mfClassicListenerSendShortFrame s 0x0A).map fun s => (.continue_, s)
  | .nack      =>
    (mfClassicListenerSendShortFrame s (if s.transferValid then 0x00 else 0x04)).map fun s =>
      (.sleep, s.resetState)
  | .silent    => some (.reset, s)
  | .sleep     => some (.sleep, s.resetState)

def mfClassicListenerRun (s : MfClassicListener) :
    MfClassicListenerEvent → Option (NfcCommand × MfClassicListener)
  | .fieldOff               => some (.sleep, s.resetState)
  | .halted                 => some (.continue_, s.resetState)
  | .other                  => some (.continue_, s)
  | .received buffer random =>
    (mfClassicListenerPlainFrame s buffer).bind fun (rx, s) =>
      (mfClassicListenerHandle s rx random).bind fun (command, s) =>
        mfClassicListenerReply s command

end FlipperZero
