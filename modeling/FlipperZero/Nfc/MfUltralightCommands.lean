import FlipperZero.Nfc.MfUltralightListener

/-!
# The commands of the MIFARE Ultralight listener

The handlers of the command table, and `mf_ultralight_listener_run` as a system whose events are
the frames and the field events.
-/

namespace FlipperZero

open Foundation

/-- A handler of the command table. -/
abbrev MfUltralightListenerCommandCallback := MfUltralightListener → BitBuffer → MfUltralightHandled

/-! ### Reading -/

def mfUltralightListenerReadPageHandler : MfUltralightListenerCommandCallback := fun s buffer =>
  let startPage := (buffer.getByte 1).toNat
  let doI2CCheck := mfUltralightIsI2CTag s.data.type
  if (if doI2CCheck then !mfUltralightI2CValidatePages startPage startPage s.data.type s.sector
      else decide (s.data.pagesTotal < startPage)) then .ok (.notProcessedNAK, s)
  else if !mfUltralightListenerCheckAccess s startPage .read then .ok (.notProcessedNAK, s)
  else
    match mfUltralightListenerPerformRead s startPage 4 doI2CCheck with
    | .error fault => .error fault
    | .ok (pages, s) => .ok (.processed, s.send (.standardFrame pages))

/-- `mf_ultralight_listener_fast_read_handler`. The array on the stack holds 64 pages. -/
def mfUltralightListenerFastReadHandler : MfUltralightListenerCommandCallback := fun s buffer =>
  let startPage := (buffer.getByte 1).toNat
  let endPage := (buffer.getByte 2).toNat
  let doI2CCheck := mfUltralightIsI2CTag s.data.type
  if !s.supports .fastRead then .ok (.notProcessedSilent, s)
  else if (if doI2CCheck then !mfUltralightI2CValidatePages startPage endPage s.data.type s.sector
      else decide ((s.data.pagesTotal : Int) - 1 < endPage)) then .ok (.notProcessedNAK, s)
  else if endPage < startPage then .ok (.notProcessedNAK, s)
  else if !mfUltralightListenerCheckAccess s startPage .read ||
      !mfUltralightListenerCheckAccess s endPage .read then .ok (.notProcessedNAK, s)
  else
    let pageCnt := (endPage - startPage + 1) % 256
    if 64 < pageCnt then .error .pagesOverflow
    else
      match mfUltralightListenerPerformRead s startPage pageCnt doI2CCheck with
      | .error fault => .error fault
      | .ok (pages, s) => .ok (.processed, s.send (.standardFrame pages))

def mfUltralightListenerReadVersionHandler : MfUltralightListenerCommandCallback := fun s _ =>
  if s.supports .readVersion then .ok (.processed, s.send (.standardFrame s.data.version))
  else .ok (.notProcessedSilent, s)

def mfUltralightListenerReadSignatureHandler : MfUltralightListenerCommandCallback := fun s _ =>
  if s.supports .readSignature then .ok (.processed, s.send (.standardFrame s.data.signature))
  else .ok (.notProcessedSilent, s)

def mfUltralightListenerReadCounterHandler : MfUltralightListenerCommandCallback := fun s buffer =>
  let counterNum := (buffer.getByte 1).toNat
  if !s.supports .readCounter then .ok (.notProcessedNAK, s)
  else if s.supports .singleCounter && (mfUltralightGetConfigPageNum s.data.type = 0 ||
      (!s.data.nfcCntEn || counterNum ≠ 2) ||
      (s.data.nfcCntPwdProt && s.authState ≠ .success)) then .ok (.notProcessedNAK, s)
  else if 2 < counterNum then .ok (.notProcessedNAK, s)
  else
    let counter := s.data.counter counterNum
    .ok (.processed, s.send (.standardFrame
      [counter.extractLsb' 0 8, counter.extractLsb' 8 8, counter.extractLsb' 16 8]))

def mfUltralightListenerCheckTearingHandler : MfUltralightListenerCommandCallback := fun s buffer =>
  let tearingFlagNum := (buffer.getByte 1).toNat
  if !s.supports (.checkTearingFlag ||| .singleCounter) then .ok (.notProcessedNAK, s)
  else if s.supports .singleCounter && tearingFlagNum ≠ 2 then .ok (.notProcessedNAK, s)
  else if 3 ≤ tearingFlagNum then .ok (.notProcessedNAK, s)
  else .ok (.processed, s.send (.standardFrame [s.data.tearingFlag tearingFlagNum]))

def mfUltralightListenerVcslHandler : MfUltralightListenerCommandCallback := fun s _ =>
  if !s.supports .vcsl then .ok (.notProcessedSilent, s)
  else if mfUltralightGetConfigPageNum s.data.type = 0 then .ok (.notProcessedSilent, s)
  else .ok (.processed, s.send (.standardFrame [s.data.vctid]))

/-! ### Counters and authentication -/

def mfUltralightListenerIncreaseCounterHandler : MfUltralightListenerCommandCallback :=
  fun s buffer =>
  let counterNum := (buffer.getByte 1).toNat
  if !s.supports .incCounter then .ok (.notProcessedSilent, s)
  else if 2 < counterNum then .ok (.notProcessedNAK, s)
  else if s.data.counter counterNum = mfUltralightMaxCntrVal then .ok (.processed, s)
  else
    match buffer.writeBytesMid 2 3 with
    | none => .error .furiCheck
    | some bytes =>
      let incrValue := Memory.load 32 (Memory.copy (fun _ => 0) 0 bytes) 0
      let counter := s.data.counter counterNum + incrValue
      if mfUltralightMaxCntrVal < counter then .ok (.notProcessedNAK, s)
      else
        .ok (.processedACK, { s with data := { s.data with
          counter := Function.update s.data.counter counterNum counter } })

def mfUltralightListenerAuthHandler : MfUltralightListenerCommandCallback := fun s buffer =>
  if !s.supports .passwordAuth then .ok (.notProcessedNAK, s)
  else
    match buffer.writeBytesMid 1 4 with
    | none => .error .furiCheck
    | some password =>
      let authSuccess : Bool := s.data.password = password
      let limited := mfUltralightAuthLimitCheckAndUpdate s authSuccess
      if limited.1 then .ok (.notProcessedAuthNAK, limited.2)
      else if !authSuccess then .ok (.notProcessedNAK, limited.2)
      else
        .ok (.processed, { limited.2.send (.standardFrame limited.2.data.pack) with
          authState := .success })

section
variable (des3 : Des3)

def mfUltralightCAuthenticateHandlerP2 : MfUltralightListenerCommandCallback := fun s buffer =>
  if buffer.getByte 0 ≠ 0xAF ∨ buffer.getSizeBytes ≠ 17 then .ok (.notProcessedNAK, s)
  else if s.data.type ≠ .mfulC then .error .furiCheck
  else if !s.data.tripleDesKeyValid then .ok (.notProcessedNAK, s)
  else
    let iv := buffer.bytes 9 8
    let ck := s.data.tripleDesGetKey
    let decrypted := des3.decrypt ck s.encB (buffer.bytes 1 16)
    let rndA := mfUltralight3DesShiftData (decrypted.1.take 8)
    let rndB := mfUltralight3DesShiftData s.rndB
    let authState := if decrypted.1.drop 8 = rndB then .success else s.authState
    let encrypted := des3.encrypt ck iv rndA
    .ok (.processed, { s.send (.standardFrame (0x00 :: encrypted.1)) with
      authState := authState
      rndB := rndB
      encB := decrypted.2 })

/-- `mf_ultralight_c_authenticate_handler_p1`, with the random bytes. -/
def mfUltralightCAuthenticateHandlerP1 (random : List (BitVec 8)) :
    MfUltralightListenerCommandCallback := fun s buffer =>
  if !s.supports .authenticate ∧ buffer.getByte 1 = 0x00 then .ok (.notProcessedNAK, s)
  else if s.data.type ≠ .mfulC then .error .furiCheck
  else
    let encrypted := des3.encrypt s.data.tripleDesGetKey (List.replicate 8 0) random
    .ok (.processed, { s.send (.standardFrame (0xAF :: encrypted.1)) with
      rndB := random
      encB := encrypted.1
      compositeCallback := some .cAuthenticateP2 })

end

/-! ### Writing -/

def mfUltralightListenerWritePageHandler : MfUltralightListenerCommandCallback := fun s buffer =>
  let startPage := (buffer.getByte 1).toNat
  let doI2CCheck := mfUltralightIsI2CTag s.data.type
  if (if doI2CCheck then !mfUltralightI2CValidatePages startPage startPage s.data.type s.sector
      else decide (s.data.pagesTotal < startPage)) then .ok (.notProcessedNAK, s)
  else if !mfUltralightListenerCheckAccess s startPage .write then .ok (.notProcessedNAK, s)
  else if mfUltralightStaticLockCheckPage s.staticLock startPage then .ok (.notProcessedNAK, s)
  else if mfUltralightDynamicLockCheckPage s startPage then .ok (.notProcessedNAK, s)
  else .ok (mfUltralightListenerPerformWrite s (fun i => buffer.data (2 + i)) startPage doI2CCheck)

/-- `mf_ultralight_listener_fast_write_handler`: the SRAM is not emulated. -/
def mfUltralightListenerFastWriteHandler : MfUltralightListenerCommandCallback := fun s buffer =>
  if !s.supports .fastWrite then .ok (.notProcessedSilent, s)
  else if buffer.getByte 1 ≠ 0xF0 ∨ buffer.getByte 2 ≠ 0xFF then .ok (.notProcessedNAK, s)
  else .ok (.processedACK, s)

def mfUltralightCompWriteHandlerP2 : MfUltralightListenerCommandCallback := fun s buffer =>
  if buffer.getSizeBytes ≠ 16 then .ok (.notProcessedNAK, s)
  else .ok (mfUltralightListenerPerformWrite s buffer.data s.compositeData false)

def mfUltralightCompWriteHandlerP1 : MfUltralightListenerCommandCallback := fun s buffer =>
  let startPage := (buffer.getByte 1).toNat
  let lastPage := (s.data.pagesTotal + 65535) % 65536
  if !s.supports .compatibleWrite then .ok (.notProcessedSilent, s)
  else if startPage < 2 ∨ lastPage < startPage then .ok (.notProcessedNAK, s)
  else if !mfUltralightListenerCheckAccess s startPage .write then .ok (.notProcessedNAK, s)
  else if mfUltralightStaticLockCheckPage s.staticLock startPage ||
      mfUltralightDynamicLockCheckPage s startPage then .ok (.notProcessedNAK, s)
  else
    .ok (.processedACK, { s with
      compositeData := startPage
      compositeCallback := some .compWriteP2 })

/-! ### Sectors -/

def mfUltralightSectorSelectHandlerP2 : MfUltralightListenerCommandCallback := fun s buffer =>
  if buffer.getSizeBytes ≠ 4 then .ok (.notProcessedNAK, s)
  else if buffer.getByte 0 = 0xFF then .ok (.notProcessedNAK, s)
  else .ok (.processedSilent, { s with sector := (buffer.getByte 0).toNat })

def mfUltralightSectorSelectHandlerP1 : MfUltralightListenerCommandCallback := fun s buffer =>
  if !s.supports .sectorSelect && buffer.getByte 1 = 0xFF then .ok (.notProcessedNAK, s)
  else .ok (.processedACK, { s with compositeCallback := some .sectorSelectP2 })

/-! ### Running -/

structure MfUltralightListenerCmdHandler where
  cmd : BitVec 8
  cmdLenBits : Nat
  callback : MfUltralightListenerCommandCallback

section
variable (des3 : Des3) (random : List (BitVec 8))

/-- The table `mf_ultralight_command`. -/
def mfUltralightCommand : List MfUltralightListenerCmdHandler :=
  [⟨0x30, 2 * 8, mfUltralightListenerReadPageHandler⟩,
    ⟨0x3A, 3 * 8, mfUltralightListenerFastReadHandler⟩,
    ⟨0xA2, 6 * 8, mfUltralightListenerWritePageHandler⟩,
    ⟨0xA6, 67 * 8, mfUltralightListenerFastWriteHandler⟩,
    ⟨0x60, 8, mfUltralightListenerReadVersionHandler⟩,
    ⟨0x3C, 2 * 8, mfUltralightListenerReadSignatureHandler⟩,
    ⟨0x39, 2 * 8, mfUltralightListenerReadCounterHandler⟩,
    ⟨0x3E, 2 * 8, mfUltralightListenerCheckTearingHandler⟩,
    ⟨0x1B, 5 * 8, mfUltralightListenerAuthHandler⟩,
    ⟨0xA5, 6 * 8, mfUltralightListenerIncreaseCounterHandler⟩,
    ⟨0xC2, 2 * 8, mfUltralightSectorSelectHandlerP1⟩,
    ⟨0xA0, 2 * 8, mfUltralightCompWriteHandlerP1⟩,
    ⟨0x4B, 21 * 8, mfUltralightListenerVcslHandler⟩,
    ⟨0x1A, 2 * 8, mfUltralightCAuthenticateHandlerP1 des3 random⟩]

/-- The search of `mf_ultralight_listener_run` through the table: it goes on behind a handler
that does not find its command. -/
def mfUltralightCommandSearch (s : MfUltralightListener) (buffer : BitBuffer) :
    List MfUltralightListenerCmdHandler → MfUltralightHandled
  | [] => .ok (.notFound, s)
  | handler :: handlers =>
    if buffer.getSize ≠ handler.cmdLenBits then mfUltralightCommandSearch s buffer handlers
    else if buffer.getByte 0 ≠ handler.cmd then mfUltralightCommandSearch s buffer handlers
    else
      match handler.callback s buffer with
      | .error fault => .error fault
      | .ok (command, s) =>
        if command ≠ .notFound then .ok (command, s)
        else mfUltralightCommandSearch s buffer handlers

def MfUltralightCompositeHandler.callback :
    MfUltralightCompositeHandler → MfUltralightListenerCommandCallback
  | .compWriteP2     => mfUltralightCompWriteHandlerP2
  | .sectorSelectP2  => mfUltralightSectorSelectHandlerP2
  | .cAuthenticateP2 => mfUltralightCAuthenticateHandlerP2 des3

def mfUltralightCompositeCommandReset (s : MfUltralightListener) : MfUltralightListener :=
  { s with compositeCallback := none, compositeData := 0 }

def mfUltralightCompositeCommandRun (handler : MfUltralightCompositeHandler)
    (s : MfUltralightListener) (buffer : BitBuffer) : MfUltralightHandled :=
  (handler.callback des3 s buffer).map fun r => (r.1, mfUltralightCompositeCommandReset r.2)

def mfUltralightCommandPostprocess (mfuCommand : MfUltralightCommand) (s : MfUltralightListener) :
    NfcCommand × MfUltralightListener :=
  match mfuCommand with
  | .processedACK => (.continue_, s.send (.shortResp 0x0A))
  | .processedSilent => (.reset, s)
  | .processed => (.continue_, s)
  | .notProcessedNAK => (.sleep, { s.send (.shortResp 0x00) with authState := .idle })
  | .notProcessedAuthNAK => (.sleep, { s.send (.shortResp 0x04) with authState := .idle })
  | .notFound | .notProcessedSilent => (.sleep, { s with authState := .idle })

/-- `mf_ultralight_reset_listener_state`, with `mf_ultralight_single_counter_try_to_unlock`. -/
def mfUltralightResetListenerState (s : MfUltralightListener) (fieldOff : Bool) :
    MfUltralightListener :=
  { mfUltralightCompositeCommandReset s with
    singleCounterIncreased :=
      if s.supports .singleCounter && fieldOff then false else s.singleCounterIncreased
    sector := 0
    authState := .idle }

end

/-- `Iso14443_3aListenerEvent`. A standard frame comes with the random bytes that are drawn
while it is handled. -/
inductive MfUltralightEvent where
  | receivedStandardFrame (buffer : BitBuffer) (random : List (BitVec 8))
  | receivedData
  | fieldOff
  | halted

section
variable (des3 : Des3)

def mfUltralightListenerRun (s : MfUltralightListener) :
    MfUltralightEvent → Except MfUltralightFault (NfcCommand × MfUltralightListener)
  | .receivedStandardFrame buffer random =>
    let handled :=
      match s.compositeCallback with
      | some handler => mfUltralightCompositeCommandRun des3 handler s buffer
      | none => mfUltralightCommandSearch s buffer (mfUltralightCommand des3 random)
    handled.map fun r => mfUltralightCommandPostprocess r.1 r.2
  | .receivedData => .ok (.sleep, mfUltralightResetListenerState s false)
  | .fieldOff => .ok (.sleep, mfUltralightResetListenerState s true)
  | .halted => .ok (.sleep, mfUltralightResetListenerState s false)

def mfUltralightListenerAlloc (data : MfUltralightData) : MfUltralightListener :=
  mfUltralightMirrorPrepareEmulation
    { authState := .idle
      data := data
      sector := 0
      singleCounterIncreased := false
      mirror := ⟨false, 0, 0, 0, .none, fun _ => 0⟩
      compositeCallback := none
      compositeData := 0
      rndB := []
      encB := []
      sent := [] }

/-- The listener as a system; an event that stops the system is not enabled. -/
def mfUltralightSystem : System MfUltralightListener MfUltralightEvent where
  step s event := (mfUltralightListenerRun des3 s event).toOption.map Prod.snd

end

end FlipperZero
