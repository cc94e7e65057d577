import FlipperZero.Nfc.Iso15693Listener

/-!
# The SLIX listener

The emulated card of `slix_listener.c` and `slix_listener_i.c` over the ISO15693-3 listener: the
extensions of the standard requests, the custom requests, and the run over the events of both.

The extensions are called by some of the standard handlers, each of which is written here with the
call at its place; the handlers without an extension are those of the plain card. Both layers share
the data of the ISO15693-3 card, which the listener of that layer holds.
-/

namespace FlipperZero

open Foundation

/-! ### The card -/

inductive SlixPasswordType where
  | read
  | write
  | privacy
  | destroy
  | easAfi
  deriving DecidableEq, Repr

/-- The password types in the order of their numbers. -/
def slixPasswordTypes : List SlixPasswordType := [.read, .write, .privacy, .destroy, .easAfi]

/-- `SlixType`, as far as it is a type. -/
inductive SlixType where
  | slix
  | slixS
  | slixL
  | slix2
  deriving DecidableEq, Repr

inductive SlixCapabilities where
  | default
  | acceptAllPasswords
  deriving DecidableEq, Repr

structure SlixProtection where
  pointer : BitVec 8
  condition : BitVec 8

structure SlixLockBits where
  eas : Bool
  ppl : Bool

structure SlixSystemInfo where
  protection : SlixProtection
  lockBits : SlixLockBits

/-- `SlixData`, less the data of the ISO15693-3 card. -/
structure SlixData where
  systemInfo : SlixSystemInfo
  signature : Fin 32 → BitVec 8
  passwords : SlixPasswordType → BitVec 32
  privacy : Bool
  capabilities : SlixCapabilities

def slixTypeFeatures : SlixType → BitVec 32
  | .slix  => 0x10
  | .slixS => 0x1F
  | .slixL => 0x1C
  | .slix2 => 0xFF

/-- The `feature_flag` of `slix_password_configs`. -/
def slixPasswordFeature : SlixPasswordType → BitVec 32
  | .read    => 0x01
  | .write   => 0x02
  | .privacy => 0x04
  | .destroy => 0x08
  | .easAfi  => 0x10

def slixTypeSupportsPassword (type : SlixType) (passwordType : SlixPasswordType) : Bool :=
  slixTypeFeatures type &&& slixPasswordFeature passwordType != 0

attribute [local instance] neZero_uidSize in
/-- `slix_get_type`, `none` for `SlixTypeUnknown`. -/
def slixGetType (uid : Fin 8 → BitVec 8) : Option SlixType :=
  let typeIndicator := (uid 3).extractLsb' 3 2
  if uid 1 ≠ 0x04 then none
  else if uid 2 = 0x01 then
    if typeIndicator = 0x02 then some .slix
    else if typeIndicator = 0x01 then some .slix2
    else none
  else if uid 2 = 0x02 then some .slixS
  else if uid 2 = 0x03 then some .slixL
  else none

/-- `slix_is_block_protected`, with the number cast to `uint8_t`. -/
def slixIsBlockProtected (card : Iso15693_3Data) (protection : SlixProtection)
    (passwordType : SlixPasswordType) (blockNum : Nat) : Bool :=
  let blockNum := blockNum % 256
  if passwordType ≠ .read ∧ passwordType ≠ .write then false
  else if card.blockCount ≤ blockNum then false
  else if blockNum = 79 then false
  else
    let high := protection.pointer.toNat ≤ blockNum
    let read := passwordType = .read
    protection.condition.getLsbD
      (if high then (if read then 4 else 5) else (if read then 0 else 1))

/-- `iso15693_3_get_block_data`: what lies from a block on. -/
def Iso15693_3Data.getBlockData (card : Iso15693_3Data) (blockIndex : Nat) : Option Memory :=
  let blockIndex := blockIndex % 256
  if blockIndex < card.blockCount ∧ blockIndex * card.blockSize < card.blockData.count then
    some fun j => card.blockData.data (blockIndex * card.blockSize + j)
  else none

def slixIsCounterIncrementProtected (card : Iso15693_3Data) : Option Bool :=
  (card.getBlockData 79).map fun counter => counter 3 != 0

def slixIncrementCounter (card : Iso15693_3Data) : Option Iso15693_3Data := do
  let blockData ← card.getBlockData 79
  let value := blockData.load 16 0 + 1
  card.setBlockData 79 [value.extractLsb' 0 8, value.extractLsb' 8 8, blockData 2, blockData 3]

/-! ### The listener -/

/-- `SlixError`, as far as the listener gives it. -/
inductive SlixError where
  | none
  | format
  | notSupported
  | internal
  | wrongPassword
  | uidMismatch
  deriving DecidableEq, Repr

structure SlixListenerSessionState where
  random : BitVec 16
  passwordMatch : SlixPasswordType → Bool

/-- `SlixListener` with the ISO15693-3 listener below it. -/
structure SlixListener where
  iso : Iso15693_3Listener
  data : SlixData
  sessionState : SlixListenerSessionState

/-- Events: the end of a reception, with the number that the generator would give next, or the field
of the reader going off. -/
inductive SlixNfcEvent where
  | rxEnd (event : Iso15693_3NfcEvent) (random : BitVec 16)
  | fieldOff

/-- What became of an event: the frame that was sent, without its CRC, and whether the listener was
told to sleep. -/
structure SlixReply where
  sent : Option (List (BitVec 8))
  sleep : Bool
  deriving DecidableEq

/-- `slix_listener_get_password_type_by_id`, `none` for `SlixPasswordTypeCount`. -/
def slixListenerGetPasswordTypeById (id : BitVec 8) : Option SlixPasswordType :=
  ((List.range 5).find? fun type => id >>> type = 0x01).bind (slixPasswordTypes[·]?)

def reverseBytesU32 (x : BitVec 32) : BitVec 32 :=
  x.extractLsb' 0 8 ++ x.extractLsb' 8 8 ++ x.extractLsb' 16 8 ++ x.extractLsb' 24 8

def slixListenerUnxorPassword (passwordXored : BitVec 32) (random : BitVec 16) : BitVec 32 :=
  reverseBytesU32 (passwordXored ^^^ (random ++ random))

namespace SlixListener

/-- `slix_listener_alloc`, over an ISO15693-3 listener as it is allocated. -/
def alloc (card : Iso15693_3Data) (data : SlixData) : SlixListener where
  iso :=
    { data := card
      state := .ready
      sessionState := ⟨false, false, false⟩
      txBuffer := [] }
  data := data
  sessionState := ⟨0, fun _ => false⟩

variable (l : SlixListener)

def isPasswordLockEnabled (passwordType : SlixPasswordType) : Bool :=
  !l.sessionState.passwordMatch passwordType

/-- `slix_is_block_protected` on the data of the listener. -/
def isBlockProtected (passwordType : SlixPasswordType) (blockNum : Nat) : Bool :=
  slixIsBlockProtected l.iso.data l.data.systemInfo.protection passwordType blockNum

def isBlockRefused (passwordType : SlixPasswordType) (blockNum : Nat) : Bool :=
  l.isBlockProtected passwordType blockNum && l.isPasswordLockEnabled passwordType

/-! ### The extensions -/

/-- `slix_listener_iso15693_3_inventory_extension_handler`. -/
def inventoryExtensionHandler : Iso15693_3Error := if l.data.privacy then .ignore else .none

/-- `slix_iso15693_3_read_block_extension_handler`. -/
def readBlockExtensionHandler (blockNum : Nat) : Iso15693_3Error :=
  -- the counter has no read protection
  if blockNum = 79 then .none
  else if l.isBlockRefused .read blockNum then .internal
  else .none

/-- `slix_listener_iso15693_3_write_block_extension_handler`: an error, or the card when the request
was fully handled here. -/
def writeBlockExtensionHandler (blockNum : Nat) (blockData : Memory) :
    Option (Except Iso15693_3Error (Option Iso15693_3Data)) :=
  if blockNum = 79 ∧ blockData.load 32 0 = 1 then do
    let increment ← slixIsCounterIncrementProtected l.iso.data
    if increment && l.isPasswordLockEnabled .read then some (.error .internal)
    else (slixIncrementCounter l.iso.data).map fun card => .ok (some card)
  else if blockNum ≠ 79 ∧ l.isBlockRefused .read blockNum then some (.error .internal)
  else if l.isBlockRefused .write blockNum then some (.error .internal)
  else some (.ok none)

/-- `slix_listener_iso15693_3_lock_block_extension_handler`. -/
def lockBlockExtensionHandler (blockNum : Nat) : Iso15693_3Error :=
  -- the counter cannot be locked
  if blockNum = 79 then .internal
  else if l.isBlockRefused .read blockNum then .internal
  else if l.isBlockRefused .write blockNum then .internal
  else .none

/-- `slix_listener_iso15693_3_read_multi_block_extension_handler`, for the blocks of its loop. -/
def readMultiBlockExtensionHandler : List Nat → Iso15693_3Error
  | [] => .none
  | i :: is =>
    if i = 79 then readMultiBlockExtensionHandler is
    else if l.isBlockRefused .read i then .internal
    else readMultiBlockExtensionHandler is

/-- `slix_listener_iso15693_3_write_multi_block_extension_handler`. -/
def writeMultiBlockExtensionHandler : Iso15693_3Error := .notSupported

/-- `slix_listener_iso15693_3_write_lock_afi_extension_handler`. -/
def writeLockAfiExtensionHandler : Iso15693_3Error :=
  if l.isPasswordLockEnabled .easAfi then .internal else .none

/-! ### The standard requests with an extension -/

variable (data : Memory) (dataSize : Nat) (flags : BitVec 8)

/-- Go on behind the call of an extension if it gave no error. -/
def behindExtension (error : Iso15693_3Error) (iso : Iso15693_3Listener)
    (rest : Option (Iso15693_3Error × Iso15693_3Listener)) :
    Option (Iso15693_3Error × Iso15693_3Listener) :=
  if error = .none then rest else some (error, iso)

/-- `iso15693_3_listener_inventory_handler`. -/
def inventoryHandler : Option (Iso15693_3Error × Iso15693_3Listener) :=
  let iso := l.iso
  let afiFlag := flags.getLsbD 4
  let dataSizeMin := if afiFlag then 2 else 1
  if dataSize < dataSizeMin then some (.format, iso)
  else if afiFlag ∧ data 0 ≠ 0 ∧ data 0 ≠ iso.data.systemInfo.afi then some (.none, iso)
  else
    let maskLen := (data (if afiFlag then 1 else 0)).toNat
    if dataSize ≠ dataSizeMin + maskLen then some (.format, iso)
    else behindExtension l.inventoryExtensionHandler iso do
      let iso ← iso.append [iso.data.systemInfo.dsfid]
      let iso ← iso.appendUid
      some (.none, iso)

/-- `iso15693_3_listener_read_block_handler`. -/
def readBlockHandler : Option (Iso15693_3Error × Iso15693_3Listener) :=
  let iso := l.iso
  if dataSize ≠ 1 then some (.format, iso)
  else
    let blockIndex := (data 0).toNat
    if iso.data.blockCount ≤ blockIndex then some (.internal, iso)
    else behindExtension (l.readBlockExtensionHandler blockIndex) iso do
      let iso ← iso.appendBlockAnswer flags blockIndex
      some (.none, iso)

/-- `iso15693_3_listener_write_block_handler`, up to the error for a fully handled request, which
is replaced by none. -/
def writeBlockHandler : Option (Iso15693_3Error × Iso15693_3Listener) :=
  let iso := l.iso.setWaitForEof flags
  if dataSize ≤ 1 then some (.format, iso)
  else
    let blockIndex := (data 0).toNat
    let blockSizeReceived := dataSize - 1
    if iso.data.blockCount ≤ blockIndex then some (.internal, iso)
    else if blockSizeReceived ≠ iso.data.blockSize then some (.internal, iso)
    else do
      if ← iso.data.isBlockLocked blockIndex then some (.internal, iso)
      else
        match ← l.writeBlockExtensionHandler blockIndex fun j => data (1 + j) with
        | .error error => some (error, iso)
        | .ok (some card) => some (.none, { iso with data := card })
        | .ok none =>
          let card ← iso.data.setBlockData blockIndex
            ((List.range blockSizeReceived).map fun j => data (1 + j))
          some (.none, { iso with data := card })

/-- `iso15693_3_listener_lock_block_handler`. -/
def lockBlockHandler : Option (Iso15693_3Error × Iso15693_3Listener) :=
  let iso := l.iso.setWaitForEof flags
  if dataSize ≠ 1 then some (.format, iso)
  else
    let blockIndex := (data 0).toNat
    if iso.data.blockCount ≤ blockIndex then some (.internal, iso)
    else do
      if ← iso.data.isBlockLocked blockIndex then some (.internal, iso)
      else behindExtension (l.lockBlockExtensionHandler blockIndex) iso do
        let card ← iso.data.setBlockLocked blockIndex true
        some (.none, { iso with data := card })

def multiBlocksRead : List Nat :=
  let blockIndexStart := (data 0).toNat
  let blockIndexEnd :=
    min (blockIndexStart + (data 1).toNat + 1) (asUInt32 (l.iso.data.blockCount - 1))
  List.range' blockIndexStart (blockIndexEnd + 1 - blockIndexStart)

/-- `iso15693_3_listener_read_multi_blocks_handler`. -/
def readMultiBlocksHandler : Option (Iso15693_3Error × Iso15693_3Listener) :=
  let iso := l.iso
  if dataSize ≠ 2 then some (.format, iso)
  else
    behindExtension (l.readMultiBlockExtensionHandler (l.multiBlocksRead data)) iso do
      let iso ← Iso15693_3Listener.appendBlocks flags (l.multiBlocksRead data) iso
      some (.none, iso)

/-- `iso15693_3_listener_write_multi_blocks_handler`, up to the call of the extension, which never
lets it go on. -/
def writeMultiBlocksHandler : Option (Iso15693_3Error × Iso15693_3Listener) :=
  let iso := l.iso.setWaitForEof flags
  if dataSize ≤ 2 then some (.format, iso)
  else
    let blockIndexStart := (data 0).toNat
    let blockCount := (data 1).toNat + 1
    let blockCountAvailable := asUInt32 (iso.data.blockCount - blockIndexStart)
    let blockSize := (dataSize - 2) / blockCount
    if blockCountAvailable < blockCount then some (.internal, iso)
    else if blockSize ≠ iso.data.blockSize then some (.internal, iso)
    else some (writeMultiBlockExtensionHandler, iso)

/-- `iso15693_3_listener_write_afi_handler`. -/
def writeAfiHandler : Option (Iso15693_3Error × Iso15693_3Listener) :=
  let iso := l.iso.setWaitForEof flags
  if dataSize ≤ 1 then some (.format, iso)
  else if iso.data.lockBits.afi then some (.internal, iso)
  else behindExtension l.writeLockAfiExtensionHandler iso (some (.none, { iso with
    data := { iso.data with systemInfo := { iso.data.systemInfo with afi := data 0 } } }))

/-- `iso15693_3_listener_lock_afi_handler`. -/
def lockAfiHandler : Option (Iso15693_3Error × Iso15693_3Listener) :=
  let iso := l.iso.setWaitForEof flags
  if iso.data.lockBits.afi then some (.internal, iso)
  else behindExtension l.writeLockAfiExtensionHandler iso (some (.none,
    { iso with data := { iso.data with lockBits := { iso.data.lockBits with afi := true } } }))

/-- `iso15693_3_handler_table`, with the extensions of `slix_iso15693_extension_handler_table`. -/
def handler (command : BitVec 8) : Option (Option (Iso15693_3Error × Iso15693_3Listener)) :=
  match command with
  | 0x01#8 => some (l.inventoryHandler data dataSize flags)
  | 0x20#8 => some (l.readBlockHandler data dataSize flags)
  | 0x21#8 => some (l.writeBlockHandler data dataSize flags)
  | 0x22#8 => some (l.lockBlockHandler data dataSize flags)
  | 0x23#8 => some (l.readMultiBlocksHandler data dataSize flags)
  | 0x24#8 => some (l.writeMultiBlocksHandler data dataSize flags)
  | 0x27#8 => some (l.writeAfiHandler data dataSize flags)
  | 0x28#8 => some (l.lockAfiHandler flags)
  | _      => l.iso.handler data dataSize flags command

/-- `iso15693_3_listener_handle_standard_request`. -/
def handleStandardRequest (command : BitVec 8) :
    Option (Iso15693_3Reply × Iso15693_3Listener) :=
  if command = 0 then none
  else
    match { l with iso := { l.iso with txBuffer := [0] } }.handler data dataSize flags command with
    | none => some (⟨.notSupported, none⟩, l.iso)
    | some result => result.bind fun (error, iso) => iso.answer error

/-- `iso15693_3_listener_process_request`. -/
def isoProcessRequest (rxBuffer : Memory) (bufSize : Nat) :
    Option (Iso15693_3Reply × Iso15693_3Listener) :=
  if bufSize < 2 then some (⟨.format, none⟩, l.iso)
  else
    let flags := rxBuffer 0
    let command := rxBuffer 1
    let data : Memory := fun i => rxBuffer (2 + i)
    let (error, iso) := l.iso.selectMode flags
    if error ≠ .none then some (⟨error, none⟩, iso)
    else if 0xA0 ≤ command.toNat then
      some (⟨iso.handleCustomRequest data (bufSize - 2), none⟩, iso)
    else if iso.sessionState.addressed then
      if bufSize < 10 then some (⟨.format, none⟩, iso)
      else if iso.data.isEqualUid data = false then some (⟨.uidMismatch, none⟩, iso)
      else { l with iso := iso }.handleStandardRequest (fun i => rxBuffer (10 + i)) (bufSize - 10)
        flags command
    else { l with iso := iso }.handleStandardRequest data (bufSize - 2) flags command

/-! ### The custom requests -/

/-- Set a flag of `password_match`. -/
def setPasswordMatch (passwordType : SlixPasswordType) (value : Bool) : SlixListener :=
  { l with sessionState := { l.sessionState with
      passwordMatch := Function.update l.sessionState.passwordMatch passwordType value } }

/-- `slix_set_privacy_mode`. -/
def setPrivacyMode (set : Bool) : SlixListener :=
  { l with data := { l.data with privacy := set } }

def setPassword (passwordType : Option SlixPasswordType) (password : BitVec 32) :
    Option (SlixError × SlixListener) :=
  match passwordType with
  | none => some (.internal, l)
  | some passwordType => do
    let type ← slixGetType l.iso.data.uid
    if slixTypeSupportsPassword type passwordType = false then some (.notSupported, l)
    else if l.data.capabilities = .acceptAllPasswords then
      some (.none, l.setPasswordMatch passwordType true)
    else if password = l.data.passwords passwordType then
      some (.none, l.setPasswordMatch passwordType true)
    else some (.wrongPassword, l.setPasswordMatch passwordType false)

def writePassword (passwordType : Option SlixPasswordType) (password : BitVec 32) :
    Option (SlixError × SlixListener) :=
  match passwordType with
  | none => some (.internal, l)
  | some passwordType => do
    let type ← slixGetType l.iso.data.uid
    if slixTypeSupportsPassword type passwordType = false then some (.notSupported, l)
    else if l.sessionState.passwordMatch passwordType then
      let l := { l with data := { l.data with
        passwords := Function.update l.data.passwords passwordType password } }
      -- require another SET_PASSWORD with the new password
      some (.none, l.setPasswordMatch passwordType false)
    else some (.wrongPassword, l)

/-- `slix_listener_get_nxp_system_info_handler`: the bytes of its answer. -/
def nxpSystemInfo : List (BitVec 8) :=
  let protection := l.data.systemInfo.protection
  let lockBits : BitVec 8 :=
    (if l.iso.data.lockBits.dsfid then 0x04 else 0)
      ||| (if l.iso.data.lockBits.afi then 0x01 else 0)
      ||| (if l.data.systemInfo.lockBits.eas then 0x02 else 0)
      ||| (if l.data.systemInfo.lockBits.ppl then 0x08 else 0)
  [protection.pointer, protection.condition, lockBits, 0x7F, 0x35, 0x00, 0x00]

def setPasswordHandler : Option (SlixError × SlixListener) :=
  if dataSize ≠ 5 then some (.format, l)
  else
    let passwordType := slixListenerGetPasswordTypeById (data 0)
    let passwordReceived := slixListenerUnxorPassword (data.load 32 1) l.sessionState.random
    (l.setPassword passwordType passwordReceived).map fun (error, l) =>
      (error, if error = .none ∧ passwordType = some .privacy then l.setPrivacyMode false else l)

def writePasswordHandler : Option (SlixError × SlixListener) :=
  if dataSize ≠ 5 then some (.format, l)
  else l.writePassword (slixListenerGetPasswordTypeById (data 0)) (data.load 32 1)

def protectPageHandler : SlixError × SlixListener :=
  if dataSize ≠ 2 then (.format, l)
  else if l.data.systemInfo.lockBits.ppl then (.internal, l)
  else if l.sessionState.passwordMatch .read = false ∨ l.sessionState.passwordMatch .write = false
  then (.internal, l)
  else if 79 ≤ (data 0).toNat then (.internal, l)
  else (.none, { l with data := { l.data with
    systemInfo := { l.data.systemInfo with protection := ⟨data 0, data 1⟩ } } })

def enablePrivacyHandler : Option (SlixError × SlixListener) :=
  if dataSize ≠ 4 then some (.format, l)
  else
    let passwordReceived := slixListenerUnxorPassword (data.load 32 0) l.sessionState.random
    (l.setPassword (some .privacy) passwordReceived).map fun (error, l) =>
      (error, if error = .none then l.setPrivacyMode true else l)

/-- `slix_request_handler_table`: the error, what is appended to the answer, and the listener. The
transmit buffer of 64 bytes has room for every answer. -/
def requestHandler (random : BitVec 16) (command : BitVec 8) :
    Option (SlixError × List (BitVec 8) × SlixListener) :=
  match command with
  | 0xAB#8 => some (.none, l.nxpSystemInfo, l)
  | 0xB2#8 => some (.none, [random.extractLsb' 0 8, random.extractLsb' 8 8],
      { l with sessionState := { l.sessionState with random := random } })
  | 0xB3#8 => (l.setPasswordHandler data dataSize).map fun (error, l) => (error, [], l)
  | 0xB4#8 => (l.writePasswordHandler data dataSize).map fun (error, l) => (error, [], l)
  | 0xB6#8 =>
    some ((l.protectPageHandler data dataSize).1, [], (l.protectPageHandler data dataSize).2)
  | 0xBA#8 => (l.enablePrivacyHandler data dataSize).map fun (error, l) => (error, [], l)
  | 0xBD#8 => some (.none, List.ofFn l.data.signature, l)
  | _      => some (.notSupported, [], l)

/-- The answer to the result of a custom handler. -/
def customAnswer (error : SlixError) (bytes : List (BitVec 8)) : SlixReply where
  sent :=
    if error = .format ∨ error = .wrongPassword ∨ error = .notSupported then none
    else if error = .none then some (0 :: bytes)
    else some [1, 0x0F]
  sleep := error = .wrongPassword

def processRequest (rxBuffer : Memory) (bufSize : Nat) (random : BitVec 16) :
    Option (SlixReply × SlixListener) :=
  if bufSize < 3 then some (⟨none, false⟩, l)
  else
    let command := rxBuffer 1
    let uidFieldSize := if l.iso.sessionState.addressed then 8 else 0
    let bufSizeMin := 3 + uidFieldSize
    if bufSize < bufSizeMin then some (⟨none, false⟩, l)
    else if l.iso.sessionState.addressed ∧
        l.iso.data.isEqualUid (fun i => rxBuffer (3 + i)) = false then
      some (⟨none, false⟩, l)
    else if command.toNat < 0xA2 ∨ 0xBE ≤ command.toNat then some (⟨none, false⟩, l)
    else
      (l.requestHandler (fun i => rxBuffer (3 + uidFieldSize + i)) (bufSize - bufSizeMin) random
        command).map fun (error, bytes, l) => (customAnswer error bytes, l)

/-! ### Events -/

/-- `iso15693_3_listener_run` with `slix_listener_run` as its callback. The field going off changes
nothing in either. -/
def run : SlixNfcEvent → Option (SlixReply × SlixListener)
  | .rxEnd (.frame rxBuffer size) random =>
    let l := { l with iso := { l.iso with txBuffer := [] } }
    (l.isoProcessRequest rxBuffer size).bind fun (reply, iso) =>
      -- the error of a request with an answer is that of sending it
      if reply.error = .notSupported ∧ reply.sent = none then
        { l with iso := iso }.processRequest rxBuffer size random
      else some (⟨reply.sent, false⟩, { l with iso :=
        if reply.error = .uidMismatch then iso.processUidMismatch rxBuffer else iso })
  | .rxEnd .eof _ => (l.iso.run .eof).map fun (reply, iso) =>
      (⟨reply.sent, false⟩, { l with iso := iso })
  | .rxEnd .wrongCrc _ => (l.iso.run .wrongCrc).map fun (reply, iso) =>
      (⟨reply.sent, false⟩, { l with iso := iso })
  | .fieldOff => some (⟨none, false⟩, l)

end SlixListener

end FlipperZero
