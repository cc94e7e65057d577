import FlipperZero.Nfc.Felica

/-!
# The FeliCa listener

`felica_listener_run`: a request is checked as a whole before the first block is read or written.
-/

namespace FlipperZero

open Foundation Reads

/-- What comes out of the checks of a request: the status flags of a refusal, or `furi_crash`. -/
inductive FelicaVerdict where
  | accepted
  | refused (sf1 sf2 : BitVec 8)
  | crashed
  deriving DecidableEq, Repr

/-- The flag of an element in the answer. -/
def felicaItemFlag (i : Nat) : BitVec 8 := 1#8 <<< i

/-- The service and the access mode of an element. -/
def felicaItemVerdict (head : BitVec 8) (i : Nat) : FelicaVerdict :=
  if head.toNat % 16 ≠ 0 then .refused (felicaItemFlag i) 0xA3
  else if head.toNat / 16 % 8 ≠ 0 then .refused (felicaItemFlag i) 0xA7
  else .accepted

/-! ### Read -/

/-- One round of `felica_validate_read_block_list`. `macA` is the first MAC_A of the list, and
`mac` whether the list has a MAC. -/
def felicaValidateReadItem (frame : Memory) (s : FelicaListener) (serviceCode i item : Nat)
    (macA : Option Nat) (mac : Bool) : Reads (FelicaVerdict × Option Nat × Bool) := do
  let head ← readAt frame item
  match felicaItemVerdict head i with
  | .accepted => do
    let valid ← felicaItemValidateBlockNumber frame item
    let number ← felicaItemNumber frame item
    if !valid || !felicaBlockExists number ||
        (felicaBlockIsReadonly s.data number && serviceCode != 0x000B) then
      pure (.refused (felicaItemFlag i) 0xA8, macA, mac)
    else if number = felicaBlockIndexMacA && !s.rcWritten then
      pure (.refused (felicaItemFlag i) 0xB2, macA, mac)
    else if number ≠ felicaBlockIndexMac && number ≠ felicaBlockIndexMacA &&
        felicaBlockRequiresAuth s.data 0x06 number && !s.external then
      pure (.refused (felicaItemFlag i) 0xB1, macA, mac)
    else
      let mac := mac || number = felicaBlockIndexMac
      let macA := if number = felicaBlockIndexMacA then some (macA.getD i) else macA
      match macA, mac with
      | some pos, true => pure (.refused (felicaItemFlag pos) 0xB0, macA, mac)
      | _, _ => pure (.accepted, macA, mac)
  | verdict => pure (verdict, macA, mac)

/-- `felica_validate_read_block_list`, for the last `n` elements. -/
def felicaValidateReadBlockList (frame : Memory) (s : FelicaListener) (serviceCode : Nat) :
    Nat → Nat → Option Nat → Nat → Option Nat → Bool → Reads FelicaVerdict
  | 0, _, _, _, _, _ => pure .accepted
  | n + 1, i, item, budget, macA, mac => do
    let item ← check item
    let (verdict, macA, mac) ← felicaValidateReadItem frame s serviceCode i item macA mac
    if verdict = .accepted then do
      let (next, budget) ← felicaListenerBlockListItemGetNext frame item budget
      felicaValidateReadBlockList frame s serviceCode n (i + 1) next budget macA mac
    else pure verdict

def felicaServiceCode (frame : Memory) : Reads Nat := do
  let low ← readAt frame 11
  let high ← readAt frame 12
  pure (low.toNat + 256 * high.toNat)

/-- `felica_listener_validate_read_request_and_set_sf`. -/
def felicaListenerValidateReadRequest (frame : Memory) (s : FelicaListener) :
    Reads FelicaVerdict := do
  let serviceNum ← readAt frame 10
  if serviceNum ≠ 1 then pure (.refused 0xFF 0xA1)
  else do
    let blockCount ← readAt frame 13
    if blockCount < 1 ∨ 4 < blockCount then pure (.refused 0xFF 0xA2)
    else do
      let serviceCode ← felicaServiceCode frame
      if serviceCode ≠ 0x000B ∧ serviceCode ≠ 0x0009 then pure (.refused 0x01 0xA6)
      else do
        let (item, budget) ← felicaListenerBlockListItemGetFirst frame
        felicaValidateReadBlockList frame s serviceCode blockCount.toNat 0 item budget none false

/-- What a Read has put together: the blocks asked for, where the blocks of the next MAC start, and
the data of the answer. -/
structure FelicaReadState where
  listener : FelicaListener
  requestedBlocks : List Nat
  macCalcStart : Nat
  data : List (BitVec 8)

/-- The answer is a block of zeros. -/
def felicaHandlerReadAllZeros (r : FelicaReadState) : FelicaReadState :=
  { r with data := r.data ++ List.replicate 16 0 }

def felicaHandlerReadBlock (number : Nat) (r : FelicaReadState) : FelicaReadState :=
  { r with data := r.data ++ (r.listener.data.numbered number).bytes 16 }

/-- Put a MAC into the first half of the block MAC_A. -/
def FelicaData.setMacA (data : FelicaData) (mac : List (BitVec 8)) : FelicaData :=
  data.setNumbered felicaBlockIndexMacA
    ((data.numbered felicaBlockIndexMacA).copy 0 (mac.take 8))

/-- `felica_handler_read_mac_a_block`. A MAC in front of others or behind none is zero. -/
def felicaHandlerReadMacABlock (des3 : Des3) (i blockCount : Nat) (r : FelicaReadState) :
    FelicaReadState :=
  if i ≠ blockCount - 1 ∨ i = 0 then
    { felicaHandlerReadAllZeros r with macCalcStart := i + 1 }
  else
    let s := r.listener
    let mac := felicaCalculateMacRead des3 s.sessionKey (s.data.rc.bytes 16)
      (r.requestedBlocks.drop r.macCalcStart) (blockCount - r.macCalcStart)
      (r.data.drop (r.macCalcStart * 16))
    felicaHandlerReadBlock felicaBlockIndexMacA
      { r with listener := { s with data := s.data.setMacA mac } }

/-- The handler that `felica_listener_get_read_block_handler` gives for a block. -/
def felicaReadBlock (des3 : Des3) (number i blockCount : Nat) (r : FelicaReadState) :
    FelicaReadState :=
  let r := { r with requestedBlocks := r.requestedBlocks ++ [number] }
  if number = felicaBlockIndexRc ∨ number = felicaBlockIndexCk then felicaHandlerReadAllZeros r
  else if number = felicaBlockIndexMacA then felicaHandlerReadMacABlock des3 i blockCount r
  else felicaHandlerReadBlock number r

/-- The loop of `felica_listener_command_handler_read`, for the last `n` elements. -/
def felicaReadBlocks (des3 : Des3) (frame : Memory) (blockCount : Nat) :
    Nat → Nat → Option Nat → Nat → FelicaReadState → Reads FelicaReadState
  | 0, _, _, _, r => pure r
  | n + 1, i, item, budget, r => do
    let item ← check item
    let number ← felicaItemNumber frame item
    let (next, budget) ← felicaListenerBlockListItemGetNext frame item budget
    felicaReadBlocks des3 frame blockCount n (i + 1) next budget
      (felicaReadBlock des3 number i blockCount r)

/-- The IDm of a request, which the answer repeats. -/
def felicaRequestIdm (frame : Memory) : List (BitVec 8) := (List.range 8).map fun i => frame (2 + i)

/-- The answer is sent: the header, and the data of a Read. -/
def FelicaListener.respond (s : FelicaListener) (code : BitVec 8) (idm : List (BitVec 8))
    (sf1 sf2 : BitVec 8) (data : List (BitVec 8)) : FelicaListener :=
  { s with sent := s.sent ++
    [[BitVec.ofNat 8 (12 + data.length), code] ++ idm ++ [sf1, sf2] ++ data] }

/-- `felica_listener_command_handler_read`; `none` when the system has crashed. -/
def felicaListenerCommandHandlerRead (des3 : Des3) (frame : Memory) (s : FelicaListener) :
    Reads (Option FelicaListener) := do
  let idm ← readRange 2 8 (some (felicaRequestIdm frame))
  let verdict ← felicaListenerValidateReadRequest frame s
  match verdict with
  | .crashed => pure none
  | .refused sf1 sf2 => do
    let _ ← felicaListenerBlockListItemGetFirst frame
    pure (some (s.respond 0x07 idm sf1 sf2 []))
  | .accepted => do
    let blockCount ← readAt frame 13
    let (item, budget) ← felicaListenerBlockListItemGetFirst frame
    let r ← felicaReadBlocks des3 frame blockCount.toNat blockCount.toNat 0 item budget
      ⟨s, [], 0, []⟩
    pure (some (r.listener.respond 0x07 idm 0x00 0x00 (blockCount :: r.data)))

/-! ### Write -/

/-- The data of a Write that belong to an element. -/
def felicaWriteData (frame : Memory) (dataPos i : Nat) : FelicaBlockData :=
  fun j => frame (dataPos + 16 * i + j)

/-- The check of the MAC in `felica_validate_write_block_list`. -/
def felicaCheckMacA (des3 : Des3) (frame : Memory) (s : FelicaListener) (dataPos : Nat) :
    Reads FelicaVerdict := do
  let data ← readRange dataPos 24 (some ((felicaWriteData frame dataPos 0).bytes 16))
  let mac ← readRange (dataPos + 16) 8 (some ((felicaWriteData frame dataPos 1).bytes 8))
  let wcnt ← readRange (dataPos + 24) 3
    (some (((felicaWriteData frame dataPos 1).bytes 11).drop 8))
  if !s.rcWritten ||
      felicaCalculateMacWrite des3 s.sessionKey (s.data.rc.bytes 16) wcnt data != mac then
    pure (.refused 0x02 0xB2)
  else
    match felicaWcntCheckErrorBoundary s.data with
    | none       => pure .crashed
    | some false => pure (.refused 0x02 0xB2)
    | some true  => pure .accepted

/-- One round of `felica_validate_write_block_list`. -/
def felicaValidateWriteItem (des3 : Des3) (frame : Memory) (s : FelicaListener)
    (dataPos i item : Nat) (writeWithMac : Bool) : Reads FelicaVerdict := do
  let valid ← felicaItemValidateBlockNumber frame item
  let number ← felicaItemNumber frame item
  if !valid || !felicaBlockExists number || (i = 1 && number ≠ felicaBlockIndexMacA) then
    pure (.refused (felicaItemFlag i) 0xA8)
  else if felicaBlockIsReadonly s.data number ||
      (felicaBlockRequiresMac s.data number && !writeWithMac) ||
      (i = 0 && number = felicaBlockIndexMacA) then
    pure (.refused 0x01 0xA8)
  else do
    let head ← readAt frame item
    match felicaItemVerdict head i with
    | .accepted =>
      if i = 1 then felicaCheckMacA des3 frame s dataPos
      else if felicaBlockRequiresAuth s.data 0x08 number && !s.external then
        pure (.refused 0x01 0xB1)
      else pure .accepted
    | verdict => pure verdict

/-- `felica_validate_write_block_list`, which gets one or two elements. -/
def felicaValidateWriteBlockList (des3 : Des3) (frame : Memory) (s : FelicaListener)
    (dataPos : Nat) (blockCount : BitVec 8) : Reads FelicaVerdict := do
  let (item, budget) ← felicaListenerBlockListItemGetFirst frame
  let first ← check item
  let (second, _) ← felicaListenerBlockListItemGetNext frame first budget
  let writeWithMac ← (if blockCount = 2 then do
      let second ← check second
      let number ← felicaItemNumber frame second
      pure (decide (number = felicaBlockIndexMacA))
    else pure false)
  let verdict ← felicaValidateWriteItem des3 frame s dataPos 0 first writeWithMac
  if verdict = .accepted ∧ blockCount = 2 then do
    let second ← check second
    felicaValidateWriteItem des3 frame s dataPos 1 second writeWithMac
  else pure verdict

/-- `felica_listener_validate_write_request_and_set_sf`. -/
def felicaListenerValidateWriteRequest (des3 : Des3) (frame : Memory) (s : FelicaListener)
    (dataPos : Nat) : Reads FelicaVerdict := do
  let serviceNum ← readAt frame 10
  if serviceNum ≠ 1 then pure (.refused 0xFF 0xA1)
  else do
    let blockCount ← readAt frame 13
    if blockCount < 1 ∨ 2 < blockCount then pure (.refused 0xFF 0xA2)
    else do
      let serviceCode ← felicaServiceCode frame
      if serviceCode ≠ 0x0009 then pure (.refused 0x01 0xA6)
      else felicaValidateWriteBlockList des3 frame s dataPos blockCount

def felicaHandlerWriteBlock (number : Nat) (value : FelicaBlockData) (s : FelicaListener) :
    FelicaListener :=
  { s with data := s.data.setNumbered number value }

def felicaHandlerWriteRcBlock (des3 : Des3) (value : FelicaBlockData) (s : FelicaListener) :
    FelicaListener :=
  let s := felicaHandlerWriteBlock felicaBlockIndexRc value s
  { s with
    sessionKey := felicaCalculateSessionKey des3 (s.data.ck.bytes 16) (s.data.rc.bytes 16)
    rcWritten := true }

/-- `felica_handler_write_reg_block`: the counters A and B, and C when neither has been kept. -/
def felicaWriteReg (old new : FelicaBlockData) : FelicaBlockData :=
  let newA := new.load 32 0 ≤ old.load 32 0
  let newB := new.load 32 4 ≤ old.load 32 4
  fun i =>
    if i < 4 then if newA then new i else old i
    else if i < 8 then if newB then new i else old i
    else if newA ∧ newB then new i
    else old i

def felicaHandlerWriteRegBlock (value : FelicaBlockData) (s : FelicaListener) : FelicaListener :=
  felicaHandlerWriteBlock felicaBlockIndexReg (felicaWriteReg s.data.reg value) s

/-- `felica_handler_write_mc_block`: what it makes of a byte of the shadow. -/
def felicaWriteMcByte (bitsPermission systemPermission : Bool) (i : Nat) (old new : BitVec 8) :
    BitVec 8 :=
  if i ≤ 1 ∧ bitsPermission then old &&& new
  else if 2 ≤ i ∧ i ≤ 5 ∧ systemPermission then new
  else if 6 ≤ i ∧ i ≤ 12 ∧ bitsPermission then old ||| new
  else if 13 ≤ i then 0
  else old

def felicaHandlerWriteMcBlock (value : FelicaBlockData) (s : FelicaListener) : FelicaListener :=
  let bitsPermission := felicaGetMcBit s.data 0 15
  let systemPermission := s.data.systemBlockRwAccess
  { s with
    mcShadow := fun i =>
      felicaWriteMcByte bitsPermission systemPermission i (s.mcShadow i) (value i) }

def felicaHandlerWriteStateBlock (value : FelicaBlockData) (s : FelicaListener) :
    FelicaListener :=
  let s := felicaHandlerWriteBlock felicaBlockIndexState value s
  { s with external := s.data.state 0 == 1, internal := s.data.state 0 == 1 }

def felicaHandlerWriteIdBlock (value : FelicaBlockData) (s : FelicaListener) : FelicaListener :=
  felicaHandlerWriteBlock felicaBlockIndexId
    (fun i => if 8 ≤ i then value i else s.data.numbered felicaBlockIndexId i) s

/-- The handler that `felica_listener_get_write_block_handler` gives for a block. -/
def felicaWriteBlock (des3 : Des3) (number : Nat) (value : FelicaBlockData) (s : FelicaListener) :
    FelicaListener :=
  if number = felicaBlockIndexRc then felicaHandlerWriteRcBlock des3 value s
  else if number = felicaBlockIndexReg then felicaHandlerWriteRegBlock value s
  else if number = felicaBlockIndexMc then felicaHandlerWriteMcBlock value s
  else if number = felicaBlockIndexState then felicaHandlerWriteStateBlock value s
  else if number = felicaBlockIndexId then felicaHandlerWriteIdBlock value s
  else felicaHandlerWriteBlock number value s

/-- The loop of `felica_listener_command_handler_write`, for the last `n` elements. -/
def felicaWriteBlocks (des3 : Des3) (frame : Memory) (dataPos : Nat) :
    Nat → Nat → Option Nat → Nat → FelicaListener → Reads FelicaListener
  | 0, _, _, _, s => pure s
  | n + 1, i, item, budget, s => do
    let item ← check item
    let number ← felicaItemNumber frame item
    let value ← readRange (dataPos + 16 * i) 16 (some (felicaWriteData frame dataPos i))
    let (next, budget) ← felicaListenerBlockListItemGetNext frame item budget
    felicaWriteBlocks des3 frame dataPos n (i + 1) next budget
      (felicaWriteBlock des3 number value s)

/-- `felica_listener_command_handler_write`; `none` when the system has crashed. -/
def felicaListenerCommandHandlerWrite (des3 : Des3) (frame : Memory) (s : FelicaListener)
    (blockListSize : Nat) : Reads (Option FelicaListener) := do
  let idm ← readRange 2 8 (some (felicaRequestIdm frame))
  let verdict ← felicaListenerValidateWriteRequest des3 frame s (14 + blockListSize)
  match verdict with
  | .crashed => pure none
  | .refused sf1 sf2 => pure (some (s.respond 0x09 idm sf1 sf2 []))
  | .accepted => do
    let (sf1, sf2) :=
      if felicaWcntCheckWarningBoundary s.data then (0xFF#8, 0x71#8) else (0x00#8, 0x00#8)
    let blockCount ← readAt frame 13
    let (item, budget) ← felicaListenerBlockListItemGetFirst frame
    let s ← felicaWriteBlocks des3 frame (14 + blockListSize) blockCount.toNat 0 item budget s
    pure ((felicaWcntIncrement s.data).map fun data =>
      { s with data := data }.respond 0x09 idm sf1 sf2 [])

/-! ### The listener -/

/-- One bit of `felica_crc_calculate`. -/
def felicaCrcBit (crc : BitVec 16) : BitVec 16 :=
  if crc.getLsbD 15 then crc <<< 1 ^^^ 0x1021#16 else crc <<< 1

/-- One byte of `felica_crc_calculate`. -/
def felicaCrcByte (crc : BitVec 16) (byte : BitVec 8) : BitVec 16 :=
  let high : BitVec 16 := byte ++ 0#8
  felicaCrcBit^[8] (crc ^^^ high)

def felicaCrcCalculate (data : List (BitVec 8)) : BitVec 16 :=
  let crc := data.foldl felicaCrcByte 0
  crc <<< 8 ||| crc >>> 8

def felicaCrcCheck (frame : Memory) (size : Nat) : Bool :=
  decide (2 < size) &&
    felicaCrcCalculate (FelicaBlockData.bytes frame (size - 2)) ==
      frame (size - 1) ++ frame (size - 2)

/-- The events of `felica_listener_run`. A frame comes with its number of bytes; `other` are the
events that only change the state of the field. -/
inductive FelicaEvent where
  | fieldOff
  | received (frame : Memory) (size : Nat)
  | other

def felicaListenerProcessRequest (des3 : Des3) (frame : Memory) (size : Nat) (s : FelicaListener) :
    Reads (Option FelicaListener) := do
  let length ← readAt frame 0
  if length.toNat ≠ (size - 2) % 256 then pure (some s)
  else do
    let (valid, blockListSize) ← felicaListenerCheckBlockListSize frame
    if !valid then pure (some s)
    else do
      let idm ← readRange 2 8 (some (felicaRequestIdm frame))
      if idm ≠ s.data.idm then pure (some s)
      else do
        let code ← readAt frame 1
        if code = 0x06 then felicaListenerCommandHandlerRead des3 frame s
        else if code = 0x08 then felicaListenerCommandHandlerWrite des3 frame s blockListSize
        else pure (some s)

/-- `felica_listener_run`; `none` when the system has crashed. -/
def felicaListenerRun (des3 : Des3) (s : FelicaListener) :
    FelicaEvent → Reads (Option FelicaListener)
  | .fieldOff            => pure (some (felicaListenerReset s))
  | .other               => pure (some s)
  | .received frame size => do
    let valid ← readRange 0 size (some (felicaCrcCheck frame size))
    if valid then felicaListenerProcessRequest des3 frame size s else pure (some s)

end FlipperZero
