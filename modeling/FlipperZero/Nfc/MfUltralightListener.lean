import FlipperZero.Foundation.Loop
import FlipperZero.Foundation.System
import FlipperZero.Nfc.MfUltralight
import FlipperZero.Toolbox.BitBuffer

/-!
# The listener of MIFARE Ultralight

`mf_ultralight_listener_run` answers the frames of a reader from the data of an emulated tag. A
command may take a second frame (`composite_cmd`). The memory is written by
`mf_ultralight_listener_perform_write` only; which writes get there is decided by the handlers,
from the locks, the password and, on NTAG I2C, the sector that the reader has selected.

The triple DES functions come from a library and are a parameter; the random bytes come with the
frame that asks for them.
-/

namespace FlipperZero

open Foundation

/-- The functions of triple DES in CBC mode, on a key, an initial vector and data. They leave the
output and the vector for a next call. -/
structure Des3 where
  encrypt : List (BitVec 8) → List (BitVec 8) → List (BitVec 8) → List (BitVec 8) × List (BitVec 8)
  decrypt : List (BitVec 8) → List (BitVec 8) → List (BitVec 8) → List (BitVec 8) × List (BitVec 8)

/-! ### State -/

inductive MfUltralightListenerAuthState where
  | idle
  | success
  deriving DecidableEq, Repr

inductive MfUltralightListenerAccessType where
  | read
  | write
  deriving DecidableEq, Repr

inductive MfUltralightCommand where
  | notFound
  | processed
  | processedACK
  | processedSilent
  | notProcessedNAK
  | notProcessedSilent
  | notProcessedAuthNAK
  deriving DecidableEq, Repr

/-- `NfcCommand`, as far as a listener returns it. -/
inductive NfcCommand where
  | continue_
  | reset
  | sleep
  deriving DecidableEq, Repr

/-- The handlers of a second frame, the callbacks of `composite_cmd`. -/
inductive MfUltralightCompositeHandler where
  | compWriteP2
  | sectorSelectP2
  | cAuthenticateP2
  deriving DecidableEq, Repr

/-- `MfUltralightMirrorMode`. The text may be followed by bytes of an earlier one. -/
structure MfUltralightMirrorMode where
  enabled : Bool
  asciiOffset : Nat
  asciiEnd : Nat
  mirrorLastPage : Nat
  actualMode : MfUltralightMirrorConf
  asciiMirrorData : Memory

/-- What the listener transmits. -/
inductive MfUltralightAnswer where
  | standardFrame (bytes : List (BitVec 8))
  | shortResp (data : BitVec 8)
  deriving DecidableEq, Repr

/-- `MfUltralightListener`. The pointers into the data are computed from the type of the tag, and
`sent` is what has been transmitted so far. -/
structure MfUltralightListener where
  authState : MfUltralightListenerAuthState
  data : MfUltralightData
  sector : Nat
  singleCounterIncreased : Bool
  mirror : MfUltralightMirrorMode
  compositeCallback : Option MfUltralightCompositeHandler
  compositeData : Nat
  rndB : List (BitVec 8)
  encB : List (BitVec 8)
  sent : List MfUltralightAnswer

/-- What stops a call. -/
inductive MfUltralightFault where
  /-- A `furi_check` fails. -/
  | furiCheck
  /-- More pages are read than the array on the stack holds. -/
  | pagesOverflow
  /-- The loop of `mf_ultralight_mirror_check_boundaries` does not end. -/
  | mirrorLoop
  deriving DecidableEq, Repr

/-- What a handler returns. -/
abbrev MfUltralightHandled := Except MfUltralightFault (MfUltralightCommand × MfUltralightListener)

namespace MfUltralightListener

variable (s : MfUltralightListener)

/-- The flag test on `instance->features`. -/
def supports (feature : MfUltralightFeatureSupport) : Bool :=
  mfUltralightSupportFeature (mfUltralightGetFeatureSupportSet s.data.type) feature

/-- `*instance->static_lock`. -/
def staticLock : BitVec 16 := Memory.load 16 s.data.page (4 * 2 + 2)

def send (answer : MfUltralightAnswer) : MfUltralightListener :=
  { s with sent := s.sent ++ [answer] }

end MfUltralightListener

/-! ### Mirror -/

def mfUltralightMirrorCheckMode (data : MfUltralightData)
    (authState : MfUltralightListenerAuthState) : MfUltralightMirrorConf :=
  let mirrorMode := data.mirrorConf
  if mirrorMode = .none ∨ mirrorMode = .uid then mirrorMode
  else if !data.nfcCntEn || (data.nfcCntPwdProt && authState ≠ .success) then
    if mirrorMode = .counter then .none else .uid
  else mirrorMode

/-- The variables of the loop in `mf_ultralight_mirror_check_boundaries`. -/
structure MfUltralightMirrorScan where
  mode : MfUltralightMirrorConf
  maxByteOffset : Nat
  again : Bool
  actualMode : MfUltralightMirrorConf

/-- One round of that loop. It leaves with the result and `mirror.actual_mode`. -/
def mfUltralightMirrorCheckRound (data : MfUltralightData) (lastUserPage : Int)
    (scan : MfUltralightMirrorScan) :
    Round MfUltralightMirrorScan (Bool × MfUltralightMirrorConf) :=
  let maxPageOffset : Int :=
    match scan.mode with
    | .none       => 0
    | .uid        => 3
    | .counter    => 1
    | .uidCounter => 5
  let maxByteOffset := if scan.mode = .uidCounter then 3 else scan.maxByteOffset
  if scan.mode = .none then .leave (false, scan.actualMode)
  else if data.mirrorPage ≤ 3 then .leave (false, scan.mode)
  else if (data.mirrorPage : Int) < lastUserPage - maxPageOffset then .leave (true, scan.mode)
  else if (data.mirrorPage : Int) = lastUserPage - maxPageOffset then
    .leave (decide (data.mirrorByte ≤ maxByteOffset), scan.mode)
  else if scan.mode = .uidCounter then .again ⟨.uid, maxByteOffset, true, scan.mode⟩
  else if scan.again then .again ⟨scan.mode, maxByteOffset, true, scan.mode⟩
  else .leave (false, scan.mode)

/-- `mf_ultralight_mirror_check_boundaries`. The third round repeats the second, so that a loop
that has not been left by then never is. -/
def mfUltralightMirrorCheckBoundaries (s : MfUltralightListener) :
    Option (Bool × MfUltralightMirrorConf) :=
  let lastUserPage := (mfUltralightGetConfigPageNum s.data.type + 254) % 256
  loop (mfUltralightMirrorCheckRound s.data lastUserPage) 3
    ⟨mfUltralightMirrorCheckMode s.data s.authState, 2, false, s.mirror.actualMode⟩

def mfUltralightMirrorEnabled (s : MfUltralightListener) :
    Except MfUltralightFault (Bool × MfUltralightListener) :=
  if s.supports .asciiMirror && mfUltralightGetConfigPageNum s.data.type ≠ 0 then
    match mfUltralightMirrorCheckBoundaries s with
    | none => .error .mirrorLoop
    | some (enabled, actualMode) =>
      .ok (enabled, { s with
        mirror := { s.mirror with actualMode := actualMode, enabled := enabled } })
  else .ok (false, { s with mirror := { s.mirror with enabled := false } })

def mfUltralightGetMirrorDataSize : MfUltralightMirrorConf → Nat
  | .uid        => 14
  | .counter    => 6
  | .uidCounter => 21
  | .none       => 0

def mfUltralightGetMirrorLastPage (s : MfUltralightListener) : Nat :=
  (s.data.mirrorPage + 1 + mfUltralightGetMirrorDataSize s.mirror.actualMode / 4) % 256

def mfUltralightGetAsciiOffset (startPage : Nat) (data : MfUltralightData) : Nat :=
  let startOffset := if data.mirrorConf = .counter then 15 else 0
  if data.mirrorPage < startPage then
    ((startPage - data.mirrorPage) * 4 - data.mirrorByte + startOffset) % 256
  else startOffset

def mfUltralightGetAsciiEnd (mode : MfUltralightMirrorConf) : Nat := if mode = .uid then 14 else 21

def mfUltralightGetByteOffset (currentPage : Nat) (data : MfUltralightData) : Nat :=
  if data.mirrorPage < currentPage then 0 else data.mirrorByte

/-- A hexadecimal digit in upper case. -/
def hexDigit (n : Nat) : BitVec 8 := BitVec.ofNat 8 (if n < 10 then 0x30 + n else 0x37 + n)

/-- The format `%02X`. -/
def formatHexByte (byte : BitVec 8) : List (BitVec 8) :=
  [hexDigit (byte.toNat / 16), hexDigit (byte.toNat % 16)]

/-- `mf_ultraligt_mirror_format_counter`: the text is cut behind the UID and its separator. -/
def mfUltralightMirrorFormatCounter (s : MfUltralightListener) : MfUltralightListener :=
  let c := s.data.counter 2
  let text := formatHexByte (c.extractLsb' 16 8) ++ formatHexByte (c.extractLsb' 8 8) ++
    formatHexByte (c.extractLsb' 0 8)
  { s with mirror := { s.mirror with
      asciiMirrorData := s.mirror.asciiMirrorData.copy (s.data.uid.length * 2 + 1) (text ++ [0]) } }

def mfUltralightMirrorPrepareEmulation (s : MfUltralightListener) : MfUltralightListener :=
  mfUltralightMirrorFormatCounter { s with mirror := { s.mirror with
    asciiMirrorData := s.mirror.asciiMirrorData.copy 0
      (s.data.uid.flatMap formatHexByte ++ [0x78]) } }

def mfUltralightMirrorReadPrepare (startPage : Nat) (s : MfUltralightListener) :
    Except MfUltralightFault MfUltralightListener :=
  match mfUltralightMirrorEnabled s with
  | .error fault => .error fault
  | .ok (false, s) => .ok s
  | .ok (true, s) =>
    .ok { s with mirror := { s.mirror with
      asciiOffset := mfUltralightGetAsciiOffset (startPage % 256) s.data
      asciiEnd := mfUltralightGetAsciiEnd s.mirror.actualMode
      mirrorLastPage := mfUltralightGetMirrorLastPage s } }

/-- The loop of `mf_ultralight_mirror_read_handler` over the rest of a page. -/
def mfUltralightMirrorCopy (source : Memory) (asciiEnd : Nat) :
    Nat → Nat → Nat → Memory → Memory × Nat
  | 0, _, asciiOffset, dest => (dest, asciiOffset)
  | n + 1, j, asciiOffset, dest =>
    if j < 4 ∧ asciiOffset < asciiEnd then
      mfUltralightMirrorCopy source asciiEnd n (j + 1) (asciiOffset + 1)
        (Function.update dest j (source asciiOffset))
    else (dest, asciiOffset)

def mfUltralightMirrorReadHandler (mirrorPageNum : Nat) (dest : Memory)
    (s : MfUltralightListener) : Memory × MfUltralightListener :=
  if s.mirror.enabled ∧ s.data.mirrorPage ≤ mirrorPageNum ∧
      mirrorPageNum ≤ s.mirror.mirrorLastPage then
    let copied := mfUltralightMirrorCopy s.mirror.asciiMirrorData s.mirror.asciiEnd 4
      (mfUltralightGetByteOffset mirrorPageNum s.data) s.mirror.asciiOffset dest
    (copied.1, { s with mirror := { s.mirror with asciiOffset := copied.2 } })
  else (dest, s)

/-! ### Counter -/

def mfUltralightMaxCntrVal : BitVec 32 := 0x00FFFFFF

def mfUltralightSingleCounterTryIncrease (s : MfUltralightListener) : MfUltralightListener :=
  if s.supports .singleCounter && s.data.nfcCntEn && !s.singleCounterIncreased then
    let counted :=
      if s.data.counter 2 < mfUltralightMaxCntrVal then
        mfUltralightMirrorFormatCounter { s with data := { s.data with
          counter := Function.update s.data.counter 2 (s.data.counter 2 + 1) } }
      else s
    { counted with singleCounterIncreased := true }
  else s

/-! ### Sectors of NTAG I2C -/

def mfUltralightI2CPageValidatorForSector0 (startPage endPage : Nat) : MfUltralightType → Bool
  | .ntagI2CPlus1K | .ntagI2CPlus2K =>
    (startPage ≤ 0xE9 && endPage ≤ 0xE9) ||
      (0xEC ≤ startPage && startPage ≤ 0xED && 0xEC ≤ endPage && endPage ≤ 0xED)
  | .ntagI2C1K => startPage ≤ 0xE2 || (0xE8 ≤ startPage && startPage ≤ 0xE9)
  | .ntagI2C2K => startPage ≤ 0xFF && endPage ≤ 0xFF
  | _ => false

def mfUltralightI2CPageValidatorForSector1 (startPage endPage : Nat) : MfUltralightType → Bool
  | .ntagI2CPlus2K => startPage ≤ 0xFF && endPage ≤ 0xFF
  | .ntagI2C2K => (0xE8 ≤ startPage && startPage ≤ 0xE9) || startPage ≤ 0xE0
  | _ => false

def mfUltralightI2CPageValidatorForSector3 (startPage : Nat) : Bool :=
  0xF8 ≤ startPage && startPage ≤ 0xF9

/-- `mf_ultralight_i2c_validate_pages`; no page of sector 2 is valid. -/
def mfUltralightI2CValidatePages (startPage endPage : Nat) (type : MfUltralightType) :
    Nat → Bool
  | 0 => mfUltralightI2CPageValidatorForSector0 startPage endPage type
  | 1 => mfUltralightI2CPageValidatorForSector1 startPage endPage type
  | 3 => mfUltralightI2CPageValidatorForSector3 startPage
  | _ => false

def mfUltralightI2CPageProviderForSector0 (page : Nat) : MfUltralightType → Nat
  | .ntagI2CPlus1K | .ntagI2CPlus2K =>
    if page = 0xEC then 234 else if page = 0xED then 235 else page % 256
  | .ntagI2C1K => if page = 0xE8 then 232 else if page = 0xE9 then 233 else page % 256
  | _ => page % 256

def mfUltralightI2CPageProviderForSector1 (page : Nat) : MfUltralightType → Nat
  | .ntagI2CPlus2K => page + 236
  | .ntagI2C2K     => page + 256
  | _              => page

def mfUltralightI2CPageProviderForSector3 (page : Nat) : MfUltralightType → Nat
  | .ntagI2CPlus1K | .ntagI2CPlus2K =>
    if page = 0xF8 then 234 else if page = 0xF9 then 235 else page
  | .ntagI2C1K => if page = 0xF8 then 227 else if page = 0xF9 then 228 else page
  | .ntagI2C2K => if page = 0xF8 then 481 else if page = 0xF9 then 482 else page
  | _ => page

def mfUltralightI2CProvidePageByRequested (page : Nat) (type : MfUltralightType) : Nat → Nat
  | 0 => mfUltralightI2CPageProviderForSector0 page type
  | 1 => mfUltralightI2CPageProviderForSector1 page type
  | 3 => mfUltralightI2CPageProviderForSector3 page type
  | _ => page

/-! ### Locks -/

/-- The bits of a mask in `MF_ULTRALIGHT_BITS_CLR(new_bits, mask)`, cleared when a bit of the
current locks is active. -/
def mfUltralightBitsClrIf {w : Nat} (active : Bool) (newBits mask : BitVec w) : BitVec w :=
  if active then newBits &&& ~~~mask else newBits

/-- `MF_ULTRALIGHT_STATIC_LOCK_L_OTP_CC_MASK`. -/
def mfUltralightStaticLockOtpCcMask : BitVec 16 := 1#16 <<< 3

/-- `MF_ULTRALIGHT_STATIC_LOCK_L_9_4_MASK`. -/
def mfUltralightStaticLock94Mask : BitVec 16 :=
  1#16 <<< 9 ||| 1#16 <<< 8 ||| 1#16 <<< 7 ||| 1#16 <<< 6 ||| 1#16 <<< 5 ||| 1#16 <<< 4

/-- `MF_ULTRALIGHT_STATIC_LOCK_L_15_10_MASK`. -/
def mfUltralightStaticLock1510Mask : BitVec 16 :=
  1#16 <<< 15 ||| 1#16 <<< 14 ||| 1#16 <<< 13 ||| 1#16 <<< 12 ||| 1#16 <<< 11 ||| 1#16 <<< 10

def mfUltralightStaticLockBytesWrite (currentLocks newBits : BitVec 16) : BitVec 16 :=
  let newBits := mfUltralightBitsClrIf (currentLocks.getLsbD 0) newBits
    mfUltralightStaticLockOtpCcMask
  let newBits := mfUltralightBitsClrIf (currentLocks.getLsbD 1) newBits
    mfUltralightStaticLock94Mask
  let newBits := mfUltralightBitsClrIf (currentLocks.getLsbD 2) newBits
    mfUltralightStaticLock1510Mask
  currentLocks ||| newBits

def mfUltralightStaticLockCheckPage (lockBits : BitVec 16) (page : Nat) : Bool :=
  if 0x0003 ≤ page ∧ page ≤ 0x000F then lockBits.getLsbD page else false

def mfUltralightDynamicLockPageNum : MfUltralightType → Nat
  | .ntagI2C1K => 226
  | .ntagI2C2K => 480
  | type => (mfUltralightGetConfigPageNum type + 65535) % 65536

/-- `*instance->dynamic_lock`, on tags that support it. -/
def MfUltralightListener.dynamicLock (s : MfUltralightListener) : BitVec 32 :=
  Memory.load 32 s.data.page (4 * mfUltralightDynamicLockPageNum s.data.type)

/-- `linear_page` of the page in the selected sector. -/
def MfUltralightListener.linearPage (s : MfUltralightListener) (page : Nat) : Nat :=
  (page + s.sector * 256) % 65536

def mfUltralightIsPageDynamicLock (s : MfUltralightListener) (page : Nat) : Bool :=
  s.supports .dynamicLock && s.linearPage page == mfUltralightDynamicLockPageNum s.data.type

/-- The rounds of the loop in `mf_ultralight_dynamic_lock_bytes_write` from `i` on. -/
def mfUltralightDynamicLockBytesClear (currentLock : BitVec 32) :
    Nat → Nat → BitVec 32 → BitVec 32
  | 0, _, newBits => newBits
  | n + 1, i, newBits =>
    mfUltralightDynamicLockBytesClear currentLock n (i + 1)
      (mfUltralightBitsClrIf (currentLock.getLsbD (i + 16)) newBits
        (1#32 <<< (i * 2) ||| 1#32 <<< (i * 2 + 1)))

def mfUltralightDynamicLockBytesWrite (currentLock newBits : BitVec 32) : BitVec 32 :=
  currentLock ||| mfUltralightDynamicLockBytesClear currentLock 8 0 (newBits &&& 0x00FFFFFF)

def mfUltralightDynamicLockGranularity : MfUltralightType → Nat
  | .ul21 | .ntag213 => 2
  | .ntag215 | .ntag216 | .ntagI2C1K | .ntagI2CPlus1K => 16
  | .ntagI2C2K | .ntagI2CPlus2K => 32
  | _ => 1

def mfUltralightGetUpperPageBound : MfUltralightType → Nat
  | .ntagI2CPlus2K => 511
  | .ntagI2C2K => 479
  | .ntagI2C1K => 225
  | type => (mfUltralightGetConfigPageNum type + 65534) % 65536

def mfUltralightDynamicLockCheckPage (s : MfUltralightListener) (page : Nat) : Bool :=
  if s.supports .dynamicLock ∧ 0x0010 ≤ s.linearPage page ∧
      s.linearPage page ≤ mfUltralightGetUpperPageBound s.data.type then
    let bit := (s.linearPage page - 16) / mfUltralightDynamicLockGranularity s.data.type % 256
    (s.dynamicLock.setWidth 16).getLsbD bit
  else false

def mfUltralightCapabilityContainerWrite (mem : Memory) (a : Nat) (newData : Memory) : Memory :=
  fun i => if a ≤ i ∧ i < a + 4 then mem i ||| newData (i - a) else mem i

/-! ### Access -/

def mfUltralightAuthCheckAttempts (data : MfUltralightData) : Bool :=
  let authlim :=
    if data.type = .ntagI2CPlus1K ∨ data.type = .ntagI2CPlus2K then 2 ^ data.authlim
    else data.authlim
  authlim ≤ data.authAttempts.toNat

def mfUltralightAuthLimitCheckAndUpdate (s : MfUltralightListener) (authSuccess : Bool) :
    Bool × MfUltralightListener :=
  if s.data.authlim = 0 then (false, s)
  else if mfUltralightAuthCheckAttempts s.data then (true, s)
  else
    let data := { s.data with
      authAttempts := if authSuccess then 0 else s.data.authAttempts + 1 }
    (mfUltralightAuthCheckAttempts data, { s with data := data })

def mfUltralightCommonCheckAccess (s : MfUltralightListener) (startPage : Nat)
    (accessType : MfUltralightListenerAccessType) : Bool :=
  let isWriteOp : Bool := accessType = .write
  let configPageStart := (s.data.pagesTotal + 65532) % 65536
  if s.authState ≠ .success ∧ s.data.auth0 ≤ startPage ∧ (s.data.prot || isWriteOp) then false
  else if (s.data.cfglck && isWriteOp) ∧
      (startPage = configPageStart ∨ startPage = configPageStart + 1) then false
  else true

def mfUltralightCCheckAccess (data : MfUltralightData) (startPage : Nat)
    (accessType : MfUltralightListenerAccessType) (authState : MfUltralightListenerAuthState) :
    Bool :=
  let isWriteOp : Bool := accessType = .write
  let auth0 := (data.pageBytes 42 0).toNat
  let auth1 := (data.pageBytes 43 0).toNat % 2
  if 44 ≤ startPage then false
  else if auth0 < 0x03 ∨ 0x30 ≤ auth0 ∨ authState = .success then true
  else if auth0 ≤ startPage ∧ (auth1 = 0 ∨ auth1 = 1 ∨ isWriteOp) then false
  else true

def mfUltralightListenerCheckAccess (s : MfUltralightListener) (startPage : Nat)
    (accessType : MfUltralightListenerAccessType) : Bool :=
  if s.supports .authenticate then mfUltralightCCheckAccess s.data startPage accessType s.authState
  else if s.supports .passwordAuth then mfUltralightCommonCheckAccess s startPage accessType
  else true

/-! ### Reading and writing pages -/

/-- The loop of `mf_ultralight_listener_perform_read`: the bytes of `n` more pages. -/
def mfUltralightListenerReadPages (startPage : Nat) (doI2CPageCheck : Bool) :
    Nat → Nat → Nat → MfUltralightListener → List (BitVec 8) × MfUltralightListener
  | 0, _, _, s => ([], s)
  | n + 1, i, rollover, s =>
    let page := startPage + i
    let pageRestricted := !mfUltralightListenerCheckAccess s page .read
    if (doI2CPageCheck && !mfUltralightI2CValidatePages page page s.data.type s.sector) ||
        mfUltralightIsPagePwdOrPack s.data.type page then
      let rest := mfUltralightListenerReadPages startPage doI2CPageCheck n (i + 1) rollover s
      ([0, 0, 0, 0] ++ rest.1, rest.2)
    else
      let page :=
        if doI2CPageCheck then mfUltralightI2CProvidePageByRequested page s.data.type s.sector
        else page
      let page := if pageRestricted then rollover else page % s.data.pagesTotal
      let handled := mfUltralightMirrorReadHandler (page % 256) (s.data.pageBytes page) s
      let rest := mfUltralightListenerReadPages startPage doI2CPageCheck n (i + 1)
        (if pageRestricted then rollover + 1 else rollover) handled.2
      ((List.range 4).map handled.1 ++ rest.1, rest.2)

def mfUltralightListenerPerformRead (s : MfUltralightListener) (startPage pageCnt : Nat)
    (doI2CPageCheck : Bool) : Except MfUltralightFault (List (BitVec 8) × MfUltralightListener) :=
  match mfUltralightMirrorReadPrepare startPage s with
  | .error fault => .error fault
  | .ok s =>
    let pages := mfUltralightListenerReadPages startPage doI2CPageCheck pageCnt 0 0 s
    .ok (pages.1, mfUltralightSingleCounterTryIncrease pages.2)

def MfUltralightListener.withPage (s : MfUltralightListener) (page : Memory) :
    MfUltralightListener :=
  { s with data := { s.data with page := page } }

/-- The page of the memory that a page of the selected sector is written to. -/
def MfUltralightListener.memoryPage (s : MfUltralightListener) (page : Nat) (doI2CCheck : Bool) :
    Nat :=
  if doI2CCheck then mfUltralightI2CProvidePageByRequested page s.data.type s.sector else page

def mfUltralightListenerPerformWrite (s : MfUltralightListener) (rxData : Memory)
    (startPage : Nat) (doI2CCheck : Bool) : MfUltralightCommand × MfUltralightListener :=
  if startPage < 2 ∧ s.sector = 0 then (.notProcessedNAK, s)
  else if startPage = 2 ∧ s.sector = 0 then
    (.processedACK, s.withPage (s.data.page.store (4 * 2 + 2)
      (mfUltralightStaticLockBytesWrite s.staticLock (Memory.load 16 rxData 2))))
  else if startPage = 3 ∧ s.sector = 0 then
    (.processedACK,
      s.withPage (mfUltralightCapabilityContainerWrite s.data.page (4 * startPage) rxData))
  else if mfUltralightIsPageDynamicLock s startPage then
    (.processedACK, s.withPage (s.data.page.store (4 * mfUltralightDynamicLockPageNum s.data.type)
      (mfUltralightDynamicLockBytesWrite s.dynamicLock (Memory.load 32 rxData 0))))
  else
    (.processedACK, s.withPage (s.data.page.copy (4 * s.memoryPage startPage doI2CCheck)
      ((List.range 4).map rxData)))

end FlipperZero
