import FlipperZero.Nfc.MfUltralightMemorySafety

/-!
# What the MIFARE Ultralight listener touches

The handlers reach into the pages of the tag, fill arrays of pages on the stack, divide by the
number of pages and go through the checks of the buffers. `mfUltralightListenerRunAccesses` lists
what one call does of this, along the branches of the handlers.

The list accounts for the model of the listener: a page that is not in it does not change, and a
call that a failed check or an overflow stops has an entry that is not safe.
-/

namespace FlipperZero

open Foundation

/-! ### Accesses -/

/-- One entry of the list. -/
inductive MfUltralightAccess where
  /-- A page of the tag is read or written. -/
  | page (page : Nat)
  /-- A page of an array on the stack is written. -/
  | stackPage (index size : Nat)
  /-- A division. -/
  | divide (divisor : Nat)
  /-- A `furi_check`. -/
  | check (condition : Bool)
  deriving DecidableEq, Repr

/-- The entry does no harm on a tag of `pagesTotal` pages. -/
def MfUltralightAccess.Safe (pagesTotal : Nat) : MfUltralightAccess → Prop
  | .page n               => n < pagesTotal
  | .stackPage index size => index < size
  | .divide divisor       => divisor ≠ 0
  | .check condition      => condition = true

namespace MfUltralightAccess

variable {n pagesTotal index size divisor : Nat} {condition : Bool}

@[simp] lemma safe_page : (page n).Safe pagesTotal ↔ n < pagesTotal := .rfl

@[simp] lemma safe_stackPage : (stackPage index size).Safe pagesTotal ↔ index < size := .rfl

@[simp] lemma safe_divide : (divide divisor).Safe pagesTotal ↔ divisor ≠ 0 := .rfl

@[simp] lemma safe_check : (check condition).Safe pagesTotal ↔ condition = true := .rfl

end MfUltralightAccess

instance (pagesTotal : Nat) : ∀ access : MfUltralightAccess, Decidable (access.Safe pagesTotal)
  | .page _            => inferInstanceAs (Decidable (_ < _))
  | .stackPage _ _     => inferInstanceAs (Decidable (_ < _))
  | .divide _          => inferInstanceAs (Decidable (_ ≠ _))
  | .check condition   => inferInstanceAs (Decidable (condition = true))

/-! ### Buffers

The buffers of the two layers hold 256 bytes; the layer below adds the two bytes of the CRC. -/

/-- `bit_buffer_get_byte`. -/
def getByteAccess (buffer : BitBuffer) (index : Nat) : MfUltralightAccess :=
  .check (index < buffer.capacityBytes)

/-- `iso14443_3a_listener_send_standard_frame`, for a frame of some bytes. -/
def sendStandardFrameAccesses (size : Nat) : List MfUltralightAccess :=
  [.check (size ≤ 256), .check (size + 2 ≤ 256)]

/-- `bit_buffer_copy_bytes` to the transmit buffer, and the frame from there. -/
def sendBytesAccesses (size : Nat) : List MfUltralightAccess :=
  .check (size ≤ 256) :: sendStandardFrameAccesses size

/-- `mf_ultralight_listener_send_short_resp`: the size is set to four bits, then the byte is set. -/
def sendShortRespAccesses : List MfUltralightAccess := [.check (4 ≤ 256 * 8), .check (0 < 1)]

/-! ### Checks of a page -/

section
variable (s : MfUltralightListener)

def configAccess (page : Nat) : MfUltralightAccess :=
  .page (mfUltralightGetConfigPageNum s.data.type + page)

/-- `mf_ultralight_common_check_access`. -/
def mfUltralightCommonCheckAccessAccesses (startPage : Nat)
    (accessType : MfUltralightListenerAccessType) : List MfUltralightAccess :=
  let isWriteOp : Bool := accessType = .write
  (if s.authState ≠ .success then
    configAccess s 0 :: (if s.data.auth0 ≤ startPage then [configAccess s 1] else []) else []) ++
  (if s.authState ≠ .success ∧ s.data.auth0 ≤ startPage ∧ (s.data.prot || isWriteOp) then []
    else [configAccess s 1])

/-- `mf_ultralight_listener_check_access`. -/
def mfUltralightListenerCheckAccessAccesses (startPage : Nat)
    (accessType : MfUltralightListenerAccessType) : List MfUltralightAccess :=
  if s.supports .authenticate then if 44 ≤ startPage then [] else [.page 42, .page 43]
  else if s.supports .passwordAuth then
    mfUltralightCommonCheckAccessAccesses s startPage accessType
  else []

/-- `mf_ultralight_static_lock_check_page`. -/
def mfUltralightStaticLockCheckPageAccesses (page : Nat) : List MfUltralightAccess :=
  if 0x0003 ≤ page ∧ page ≤ 0x000F then [.page 2] else []

/-- `mf_ultralight_dynamic_lock_check_page`. -/
def mfUltralightDynamicLockCheckPageAccesses (page : Nat) : List MfUltralightAccess :=
  if s.supports .dynamicLock ∧ 0x0010 ≤ s.linearPage page ∧
      s.linearPage page ≤ mfUltralightGetUpperPageBound s.data.type then
    [.page (mfUltralightDynamicLockPageNum s.data.type)]
  else []

/-! ### Reading and writing pages -/

/-- `mf_ultralight_mirror_read_prepare`. -/
def mfUltralightMirrorReadPrepareAccesses : List MfUltralightAccess :=
  if s.supports .asciiMirror && mfUltralightGetConfigPageNum s.data.type ≠ 0 then
    configAccess s 0 ::
      (if s.data.mirrorConf = .none ∨ s.data.mirrorConf = .uid then [] else [configAccess s 1])
  else []

/-- The loop of `mf_ultralight_listener_perform_read` into an array of `size` pages. -/
def mfUltralightListenerReadPagesAccesses (startPage size : Nat) (doI2CPageCheck : Bool) :
    Nat → Nat → Nat → List MfUltralightAccess
  | 0, _, _ => []
  | n + 1, i, rollover =>
    let page := startPage + i
    let pageRestricted := !mfUltralightListenerCheckAccess s page .read
    mfUltralightListenerCheckAccessAccesses s page .read ++
    if (doI2CPageCheck && !mfUltralightI2CValidatePages page page s.data.type s.sector) ||
        mfUltralightIsPagePwdOrPack s.data.type page then
      .stackPage i size ::
        mfUltralightListenerReadPagesAccesses startPage size doI2CPageCheck n (i + 1) rollover
    else
      let page :=
        if doI2CPageCheck then mfUltralightI2CProvidePageByRequested page s.data.type s.sector
        else page
      (if pageRestricted then [.page rollover]
        else [.divide s.data.pagesTotal, .page (page % s.data.pagesTotal)]) ++
      .stackPage i size :: ((if s.mirror.enabled then [configAccess s 0] else []) ++
        mfUltralightListenerReadPagesAccesses startPage size doI2CPageCheck n (i + 1)
          (if pageRestricted then rollover + 1 else rollover))

/-- `mf_ultralight_listener_perform_read` into an array of `size` pages, and the frame with the
pages. -/
def mfUltralightListenerPerformReadAccesses (startPage pageCnt size : Nat)
    (doI2CPageCheck : Bool) : List MfUltralightAccess :=
  mfUltralightMirrorReadPrepareAccesses s ++
  match mfUltralightMirrorReadPrepare startPage s with
  | .error _ => []
  | .ok s =>
    mfUltralightListenerReadPagesAccesses s startPage size doI2CPageCheck pageCnt 0 0 ++
    (if s.supports .singleCounter then [configAccess s 1] else []) ++ sendBytesAccesses (pageCnt * 4)

/-- `mf_ultralight_listener_perform_write`. -/
def mfUltralightListenerPerformWriteAccesses (startPage : Nat) (doI2CCheck : Bool) :
    List MfUltralightAccess :=
  if startPage < 2 ∧ s.sector = 0 then []
  else if startPage = 2 ∧ s.sector = 0 then [.page 2]
  else if startPage = 3 ∧ s.sector = 0 then [.page startPage]
  else if mfUltralightIsPageDynamicLock s startPage then
    [.page (mfUltralightDynamicLockPageNum s.data.type)]
  else [.page (s.memoryPage startPage doI2CCheck)]

end

/-! ### Handlers -/

/-- The accesses of a handler. -/
abbrev MfUltralightListenerCommandAccesses :=
  MfUltralightListener → BitBuffer → List MfUltralightAccess

/-- `mf_ultralight_listener_read_page_handler`. -/
def mfUltralightListenerReadPageAccesses : MfUltralightListenerCommandAccesses := fun s buffer =>
  let startPage := (buffer.getByte 1).toNat
  let doI2CCheck := mfUltralightIsI2CTag s.data.type
  getByteAccess buffer 1 ::
  if (if doI2CCheck then !mfUltralightI2CValidatePages startPage startPage s.data.type s.sector
      else decide (s.data.pagesTotal < startPage)) then []
  else mfUltralightListenerCheckAccessAccesses s startPage .read ++
    if !mfUltralightListenerCheckAccess s startPage .read then []
    else mfUltralightListenerPerformReadAccesses s startPage 4 4 doI2CCheck

/-- `mf_ultralight_listener_fast_read_handler`. -/
def mfUltralightListenerFastReadAccesses : MfUltralightListenerCommandAccesses := fun s buffer =>
  let startPage := (buffer.getByte 1).toNat
  let endPage := (buffer.getByte 2).toNat
  let doI2CCheck := mfUltralightIsI2CTag s.data.type
  if !s.supports .fastRead then []
  else getByteAccess buffer 1 :: getByteAccess buffer 2 ::
    if (if doI2CCheck then !mfUltralightI2CValidatePages startPage endPage s.data.type s.sector
        else decide ((s.data.pagesTotal : Int) - 1 < endPage)) then []
    else if endPage < startPage then []
    else mfUltralightListenerCheckAccessAccesses s startPage .read ++
      if !mfUltralightListenerCheckAccess s startPage .read then []
      else mfUltralightListenerCheckAccessAccesses s endPage .read ++
        if !mfUltralightListenerCheckAccess s endPage .read then []
        else mfUltralightListenerPerformReadAccesses s startPage ((endPage - startPage + 1) % 256) 64
          doI2CCheck

/-- `mf_ultralight_listener_write_page_handler`. -/
def mfUltralightListenerWritePageAccesses : MfUltralightListenerCommandAccesses := fun s buffer =>
  let startPage := (buffer.getByte 1).toNat
  let doI2CCheck := mfUltralightIsI2CTag s.data.type
  getByteAccess buffer 1 ::
  if (if doI2CCheck then !mfUltralightI2CValidatePages startPage startPage s.data.type s.sector
      else decide (s.data.pagesTotal < startPage)) then []
  else mfUltralightListenerCheckAccessAccesses s startPage .write ++
    if !mfUltralightListenerCheckAccess s startPage .write then []
    else mfUltralightStaticLockCheckPageAccesses startPage ++
      if mfUltralightStaticLockCheckPage s.staticLock startPage then []
      else mfUltralightDynamicLockCheckPageAccesses s startPage ++
        if mfUltralightDynamicLockCheckPage s startPage then []
        else mfUltralightListenerPerformWriteAccesses s startPage doI2CCheck

/-- `mf_ultralight_listener_fast_write_handler`. -/
def mfUltralightListenerFastWriteAccesses : MfUltralightListenerCommandAccesses := fun s buffer =>
  if !s.supports .fastWrite then [] else [getByteAccess buffer 1, getByteAccess buffer 2]

/-- `mf_ultralight_listener_read_version_handler`. -/
def mfUltralightListenerReadVersionAccesses : MfUltralightListenerCommandAccesses := fun s _ =>
  if s.supports .readVersion then sendBytesAccesses 8 else []

/-- `mf_ultralight_listener_read_signature_handler`. -/
def mfUltralightListenerReadSignatureAccesses : MfUltralightListenerCommandAccesses := fun s _ =>
  if s.supports .readSignature then sendBytesAccesses 32 else []

/-- `mf_ultralight_listener_read_counter_handler`. -/
def mfUltralightListenerReadCounterAccesses : MfUltralightListenerCommandAccesses := fun s buffer =>
  let counterNum := (buffer.getByte 1).toNat
  getByteAccess buffer 1 ::
  if !s.supports .readCounter then []
  else (if s.supports .singleCounter && mfUltralightGetConfigPageNum s.data.type ≠ 0 then
      [configAccess s 1] else []) ++
    if s.supports .singleCounter && (mfUltralightGetConfigPageNum s.data.type = 0 ||
        (!s.data.nfcCntEn || counterNum ≠ 2) ||
        (s.data.nfcCntPwdProt && s.authState ≠ .success)) then []
    else if 2 < counterNum then []
    else sendBytesAccesses 3

/-- A byte that is set in the transmit buffer, and the frame with it. -/
def sendByteAccesses : List MfUltralightAccess :=
  [.check (1 ≤ 256), .check (0 < 1)] ++ sendStandardFrameAccesses 1

/-- `mf_ultralight_listener_check_tearing_handler`. -/
def mfUltralightListenerCheckTearingAccesses : MfUltralightListenerCommandAccesses :=
  fun s buffer =>
  let tearingFlagNum := (buffer.getByte 1).toNat
  getByteAccess buffer 1 ::
  if !s.supports (.checkTearingFlag ||| .singleCounter) then []
  else if s.supports .singleCounter && tearingFlagNum ≠ 2 then []
  else if 3 ≤ tearingFlagNum then []
  else sendByteAccesses

/-- `mf_ultralight_listener_vcsl_handler`. -/
def mfUltralightListenerVcslAccesses : MfUltralightListenerCommandAccesses := fun s _ =>
  if !s.supports .vcsl then []
  else if mfUltralightGetConfigPageNum s.data.type = 0 then []
  else configAccess s 1 :: sendByteAccesses

/-- `mf_ultralight_listener_increase_counter_handler`. -/
def mfUltralightListenerIncreaseCounterAccesses : MfUltralightListenerCommandAccesses :=
  fun s buffer =>
  let counterNum := (buffer.getByte 1).toNat
  if !s.supports .incCounter then []
  else getByteAccess buffer 1 ::
    if 2 < counterNum then []
    else if s.data.counter counterNum = mfUltralightMaxCntrVal then []
    else [.check (2 + 3 ≤ buffer.getSizeBytes)]

/-- `mf_ultralight_listener_auth_handler`: the password, the limit of attempts and, when they let
the reader in, the answer. -/
def mfUltralightListenerAuthAccesses : MfUltralightListenerCommandAccesses := fun s buffer =>
  if !s.supports .passwordAuth then []
  else [.check (1 + 4 ≤ buffer.getSizeBytes), configAccess s 2, configAccess s 1] ++
    let authSuccess : Bool := s.data.password = buffer.bytes 1 4
    if (mfUltralightAuthLimitCheckAndUpdate s authSuccess).1 then []
    else if !authSuccess then []
    else configAccess s 3 :: sendBytesAccesses 2

/-- `mf_ultralight_3des_get_key`, and the key that is read through it. -/
def mfUltralight3DesGetKeyAccesses (s : MfUltralightListener) : List MfUltralightAccess :=
  .check (s.data.type = .mfulC) ::
    if s.data.type = .mfulC then [.page 44, .page 45, .page 46, .page 47] else []

/-- A byte and a block of eight that are appended to the transmit buffer, and the frame with
them. -/
def sendBlockAccesses : List MfUltralightAccess :=
  [.check (0 + 1 ≤ 256), .check (1 + 8 ≤ 256)] ++ sendStandardFrameAccesses 9

/-- `mf_ultralight_c_authenticate_handler_p2`. -/
def mfUltralightCAuthenticateP2Accesses : MfUltralightListenerCommandAccesses := fun s buffer =>
  getByteAccess buffer 0 ::
  if buffer.getByte 0 ≠ 0xAF ∨ buffer.getSizeBytes ≠ 17 then []
  else .check (s.data.type = .mfulC) ::
    if s.data.type ≠ .mfulC ∨ !s.data.tripleDesKeyValid then []
    else mfUltralight3DesGetKeyAccesses s ++ sendBlockAccesses

/-- `mf_ultralight_c_authenticate_handler_p1`. -/
def mfUltralightCAuthenticateP1Accesses : MfUltralightListenerCommandAccesses := fun s buffer =>
  (if !s.supports .authenticate then [getByteAccess buffer 1] else []) ++
  if !s.supports .authenticate ∧ buffer.getByte 1 = 0x00 then []
  else mfUltralight3DesGetKeyAccesses s ++
    if s.data.type ≠ .mfulC then [] else sendBlockAccesses

/-- `mf_ultralight_comp_write_handler_p2`. -/
def mfUltralightCompWriteP2Accesses : MfUltralightListenerCommandAccesses := fun s buffer =>
  if buffer.getSizeBytes ≠ 16 then []
  else mfUltralightListenerPerformWriteAccesses s s.compositeData false

/-- `mf_ultralight_comp_write_handler_p1`. -/
def mfUltralightCompWriteP1Accesses : MfUltralightListenerCommandAccesses := fun s buffer =>
  let startPage := (buffer.getByte 1).toNat
  let lastPage := (s.data.pagesTotal + 65535) % 65536
  if !s.supports .compatibleWrite then []
  else getByteAccess buffer 1 ::
    if startPage < 2 ∨ lastPage < startPage then []
    else mfUltralightListenerCheckAccessAccesses s startPage .write ++
      if !mfUltralightListenerCheckAccess s startPage .write then []
      else mfUltralightStaticLockCheckPageAccesses startPage ++
        if mfUltralightStaticLockCheckPage s.staticLock startPage then []
        else mfUltralightDynamicLockCheckPageAccesses s startPage

/-- `mf_ultralight_sector_select_handler_p2`. -/
def mfUltralightSectorSelectP2Accesses : MfUltralightListenerCommandAccesses := fun _ buffer =>
  if buffer.getSizeBytes ≠ 4 then [] else [getByteAccess buffer 0]

/-- `mf_ultralight_sector_select_handler_p1`. -/
def mfUltralightSectorSelectP1Accesses : MfUltralightListenerCommandAccesses := fun s buffer =>
  if !s.supports .sectorSelect then [getByteAccess buffer 1] else []

/-- The accesses of the handlers of `mf_ultralight_command`, with the command and the length. -/
def mfUltralightCommandAccesses :
    List (BitVec 8 × Nat × MfUltralightListenerCommandAccesses) :=
  [(0x30, 2 * 8, mfUltralightListenerReadPageAccesses),
    (0x3A, 3 * 8, mfUltralightListenerFastReadAccesses),
    (0xA2, 6 * 8, mfUltralightListenerWritePageAccesses),
    (0xA6, 67 * 8, mfUltralightListenerFastWriteAccesses),
    (0x60, 8, mfUltralightListenerReadVersionAccesses),
    (0x3C, 2 * 8, mfUltralightListenerReadSignatureAccesses),
    (0x39, 2 * 8, mfUltralightListenerReadCounterAccesses),
    (0x3E, 2 * 8, mfUltralightListenerCheckTearingAccesses),
    (0x1B, 5 * 8, mfUltralightListenerAuthAccesses),
    (0xA5, 6 * 8, mfUltralightListenerIncreaseCounterAccesses),
    (0xC2, 2 * 8, mfUltralightSectorSelectP1Accesses),
    (0xA0, 2 * 8, mfUltralightCompWriteP1Accesses),
    (0x4B, 21 * 8, mfUltralightListenerVcslAccesses),
    (0x1A, 2 * 8, mfUltralightCAuthenticateP1Accesses)]

def mfUltralightCommandSearchAccesses (s : MfUltralightListener) (buffer : BitBuffer) :
    List (BitVec 8 × Nat × MfUltralightListenerCommandAccesses) → List MfUltralightAccess
  | [] => []
  | (cmd, cmdLenBits, accesses) :: handlers =>
    if buffer.getSize ≠ cmdLenBits then mfUltralightCommandSearchAccesses s buffer handlers
    else if buffer.getByte 0 ≠ cmd then mfUltralightCommandSearchAccesses s buffer handlers
    else accesses s buffer

/-- The accesses of the second frame of a composite command. -/
def MfUltralightCompositeHandler.accesses :
    MfUltralightCompositeHandler → MfUltralightListenerCommandAccesses
  | .compWriteP2     => mfUltralightCompWriteP2Accesses
  | .sectorSelectP2  => mfUltralightSectorSelectP2Accesses
  | .cAuthenticateP2 => mfUltralightCAuthenticateP2Accesses

/-- The handler that a standard frame is for, in a state. -/
def MfUltralightListener.frameAccesses (s : MfUltralightListener) (buffer : BitBuffer) :
    List MfUltralightAccess :=
  match s.compositeCallback with
  | some handler => handler.accesses s buffer
  | none => mfUltralightCommandSearchAccesses s buffer mfUltralightCommandAccesses

/-- `mf_ultralight_listener_run`, with the short response if there is one. -/
def mfUltralightListenerRunAccesses (s : MfUltralightListener) :
    MfUltralightEvent → List MfUltralightAccess
  | .receivedStandardFrame buffer _ =>
    getByteAccess buffer 0 :: s.frameAccesses buffer ++ sendShortRespAccesses
  | _ => []

/-! ### The list and the model -/

variable {s t : MfUltralightListener} {buffer : BitBuffer} {des3 : Des3}
  {random : List (BitVec 8)}

/-- The list accounts for a handler: for the pages that it changes and, when the loop of the mirror
ends, for what stops it. -/
structure MfUltralightHandled.AccountedFor (r : MfUltralightHandled) (s : MfUltralightListener)
    (accesses : List MfUltralightAccess) : Prop where
  writes : ∀ command t, r = .ok (command, t) →
    ∀ i, t.data.page i ≠ s.data.page i → .page (i / 4) ∈ accesses
  faults : (mfUltralightMirrorEnabled s).isOk → ∀ fault, r = .error fault →
    ∃ access ∈ accesses, ¬access.Safe s.data.pagesTotal

namespace MfUltralightHandled.AccountedFor

variable {r : MfUltralightHandled} {accesses accesses' : List MfUltralightAccess}

lemma of_quiet (hquiet : r.Meets s.Quiet) (hok : ∀ fault, r ≠ .error fault) :
    r.AccountedFor s accesses where
  writes command t ht i hi := absurd (congrFun (hquiet command t ht).2.page_eq i) hi
  faults _ fault hfault := absurd hfault (hok fault)

lemma ok (command : MfUltralightCommand) (hpage : t.data.page = s.data.page) :
    MfUltralightHandled.AccountedFor (.ok (command, t)) s accesses where
  writes := by
    rintro _ _ ⟨⟩ i hi
    exact absurd (congrFun hpage i) hi
  faults _ _ hfault := nomatch hfault

lemma error {fault : MfUltralightFault} {access : MfUltralightAccess}
    (hmem : access ∈ accesses) (hviolated : ¬access.Safe s.data.pagesTotal) :
    MfUltralightHandled.AccountedFor (.error fault) s accesses where
  writes _ _ hok := nomatch hok
  faults _ _ _ := ⟨access, hmem, hviolated⟩

lemma mono (h : r.AccountedFor s accesses) (hsubset : accesses ⊆ accesses') :
    r.AccountedFor s accesses' where
  writes command t ht i hi := hsubset (h.writes command t ht i hi)
  faults hmirror fault hfault := by
    obtain ⟨access, hmem, hviolated⟩ := h.faults hmirror fault hfault
    exact ⟨access, hsubset hmem, hviolated⟩

end MfUltralightHandled.AccountedFor

open MfUltralightHandled.AccountedFor

lemma mfUltralightMirrorReadPrepare_isOk (h : (mfUltralightMirrorEnabled s).isOk)
    (startPage : Nat) : ∃ u, mfUltralightMirrorReadPrepare startPage s = .ok u := by
  unfold mfUltralightMirrorReadPrepare
  cases henabled : mfUltralightMirrorEnabled s with
  | error fault =>
    rw [henabled] at h
    cases h
  | ok r =>
    obtain ⟨enabled, u⟩ := r
    cases enabled
    · exact ⟨_, rfl⟩
    · exact ⟨_, rfl⟩

lemma mfUltralightListenerPerformRead_accounted {startPage pageCnt : Nat} {check : Bool}
    (accesses : List MfUltralightAccess) :
    MfUltralightHandled.AccountedFor
      (match mfUltralightListenerPerformRead s startPage pageCnt check with
        | .error fault => .error fault
        | .ok (pages, s) => .ok (.processed, s.send (.standardFrame pages))) s accesses where
  writes command t ht i hi :=
    absurd (congrFun (mfUltralightListenerPerformRead_meets command t ht).2.page_eq i) hi
  faults hmirror fault hfault := by
    obtain ⟨u, hu⟩ := mfUltralightMirrorReadPrepare_isOk hmirror startPage
    rw [mfUltralightListenerPerformRead, hu] at hfault
    cases hfault

lemma mfUltralightListenerReadPage_accounted :
    (mfUltralightListenerReadPageHandler s buffer).AccountedFor s
      (mfUltralightListenerReadPageAccesses s buffer) := by
  unfold mfUltralightListenerReadPageHandler
  dsimp only
  split_ifs
  all_goals first
    | exact ok _ rfl
    | exact mfUltralightListenerPerformRead_accounted _

lemma sendBytesAccesses_subset {startPage pageCnt size : Nat} {check : Bool}
    (hmirror : (mfUltralightMirrorEnabled s).isOk) :
    sendBytesAccesses (pageCnt * 4) ⊆
      mfUltralightListenerPerformReadAccesses s startPage pageCnt size check := by
  obtain ⟨u, hu⟩ := mfUltralightMirrorReadPrepare_isOk hmirror startPage
  rw [mfUltralightListenerPerformReadAccesses, hu]
  intro access hmem
  exact List.mem_append_right _ (List.mem_append_right _ hmem)

/-- The number of pages that a FAST_READ asks for, as the handler computes it. -/
def fastReadPageCnt (buffer : BitBuffer) : Nat :=
  ((buffer.getByte 2).toNat - (buffer.getByte 1).toNat + 1) % 256

/-- The checks of a FAST_READ pass. -/
structure MfUltralightListener.FastReads (s : MfUltralightListener) (buffer : BitBuffer) :
    Prop where
  supports : s.supports .fastRead = true
  range : (if mfUltralightIsI2CTag s.data.type then
      !mfUltralightI2CValidatePages (buffer.getByte 1).toNat (buffer.getByte 2).toNat s.data.type
        s.sector
    else decide ((s.data.pagesTotal : Int) - 1 < (buffer.getByte 2).toNat)) = false
  order : (buffer.getByte 1).toNat ≤ (buffer.getByte 2).toNat
  startAccess : mfUltralightListenerCheckAccess s (buffer.getByte 1).toNat .read = true
  endAccess : mfUltralightListenerCheckAccess s (buffer.getByte 2).toNat .read = true

lemma MfUltralightListener.FastReads.subset (h : s.FastReads buffer) :
    mfUltralightListenerPerformReadAccesses s (buffer.getByte 1).toNat (fastReadPageCnt buffer) 64
        (mfUltralightIsI2CTag s.data.type) ⊆ mfUltralightListenerFastReadAccesses s buffer := by
  intro access hmem
  simp only [mfUltralightListenerFastReadAccesses, h.supports, Bool.not_true, Bool.false_eq_true,
    if_false, h.range, Nat.not_lt.mpr h.order, h.startAccess, h.endAccess]
  exact List.mem_cons_of_mem _ (List.mem_cons_of_mem _
    (List.mem_append_right _ (List.mem_append_right _ hmem)))

lemma mfUltralightListenerFastRead_accounted :
    (mfUltralightListenerFastReadHandler s buffer).AccountedFor s
      (mfUltralightListenerFastReadAccesses s buffer) where
  writes command t ht i hi :=
    absurd (congrFun (mfUltralightListenerFastReadHandler_quiet command t ht).2.page_eq i) hi
  faults hmirror fault hfault := by
    unfold mfUltralightListenerFastReadHandler at hfault
    dsimp only at hfault
    generalize hinvalid : (if mfUltralightIsI2CTag s.data.type = true then _ else _) = invalid
      at hfault
    split_ifs at hfault with hsupports hrange horder haccess hcount
    · -- more pages than the array holds do not fit in the buffer either
      have hfast : s.FastReads buffer := by
        rw [Bool.or_eq_true, not_or, Bool.not_eq_true', Bool.not_eq_true'] at haccess
        constructor
        · simpa using hsupports
        · exact hinvalid.trans (Bool.eq_false_iff.mpr hrange)
        · exact Nat.not_lt.mp horder
        · exact Bool.of_not_eq_false haccess.1
        · exact Bool.of_not_eq_false haccess.2
      refine ⟨.check (fastReadPageCnt buffer * 4 ≤ 256),
        hfast.subset (sendBytesAccesses_subset hmirror List.mem_cons_self), ?_⟩
      have hcount' : 64 < fastReadPageCnt buffer := hcount
      simp only [MfUltralightAccess.safe_check, decide_eq_true_eq]
      omega
    · exact (mfUltralightListenerPerformRead_accounted []).faults hmirror fault
        hfault |>.elim fun _ h => absurd h.1 List.not_mem_nil

lemma mfUltralightListenerPerformWrite_accounted (rxData : Memory) (startPage : Nat)
    (check : Bool) :
    MfUltralightHandled.AccountedFor
      (.ok (mfUltralightListenerPerformWrite s rxData startPage check)) s
      (mfUltralightListenerPerformWriteAccesses s startPage check) where
  faults _ _ hfault := nomatch hfault
  writes := by
    -- a byte that changes is one of the bytes that are written
    have hbyte (a : Nat) {i n page : Nat} (ha : 4 * page ≤ a) (hn : a + n ≤ 4 * page + 4)
        (h : ¬(i < a ∨ a + n ≤ i)) : i / 4 = page := by omega
    unfold mfUltralightListenerPerformWrite mfUltralightListenerPerformWriteAccesses
    split_ifs with huid hstatic hcc hdynamic
    all_goals
      rintro _ _ ⟨⟩ i hi
    · exact absurd rfl hi
    · refine List.mem_singleton.mpr (congrArg _ (hbyte 10 (n := 2) (by omega) (by omega) ?_))
      rintro (hlt | hge)
      · exact hi (Memory.store_of_lt hlt _)
      · exact hi (Memory.store_of_ge hge _)
    · refine List.mem_singleton.mpr (congrArg _ (hbyte (4 * startPage) (n := 4) le_rfl le_rfl ?_))
      intro hout
      exact hi (if_neg (by omega))
    · refine List.mem_singleton.mpr (congrArg _ (hbyte
        (4 * mfUltralightDynamicLockPageNum s.data.type) (n := 4) le_rfl le_rfl ?_))
      rintro (hlt | hge)
      · exact hi (Memory.store_of_lt hlt _)
      · exact hi (Memory.store_of_ge hge _)
    · refine List.mem_singleton.mpr (congrArg _ (hbyte (4 * s.memoryPage startPage check) (n := 4)
        le_rfl le_rfl ?_))
      rintro (hlt | hge)
      · exact hi (Memory.copy_of_lt hlt)
      · exact hi (Memory.copy_of_ge (by simpa using hge))

/-- The checks of a WRITE pass. -/
structure MfUltralightListener.Writes (s : MfUltralightListener) (buffer : BitBuffer) : Prop where
  range : (if mfUltralightIsI2CTag s.data.type then
      !mfUltralightI2CValidatePages (buffer.getByte 1).toNat (buffer.getByte 1).toNat s.data.type
        s.sector
    else decide (s.data.pagesTotal < (buffer.getByte 1).toNat)) = false
  access : mfUltralightListenerCheckAccess s (buffer.getByte 1).toNat .write = true
  staticLock : mfUltralightStaticLockCheckPage s.staticLock (buffer.getByte 1).toNat = false
  dynamicLock : mfUltralightDynamicLockCheckPage s (buffer.getByte 1).toNat = false

lemma MfUltralightListener.Writes.subset (h : s.Writes buffer) :
    mfUltralightListenerPerformWriteAccesses s (buffer.getByte 1).toNat
        (mfUltralightIsI2CTag s.data.type) ⊆ mfUltralightListenerWritePageAccesses s buffer := by
  intro access hmem
  simp only [mfUltralightListenerWritePageAccesses, h.range, Bool.false_eq_true, if_false, h.access,
    Bool.not_true, h.staticLock, h.dynamicLock]
  exact List.mem_cons_of_mem _ (List.mem_append_right _
    (List.mem_append_right _ (List.mem_append_right _ hmem)))

lemma mfUltralightListenerWritePage_accounted :
    (mfUltralightListenerWritePageHandler s buffer).AccountedFor s
      (mfUltralightListenerWritePageAccesses s buffer) := by
  unfold mfUltralightListenerWritePageHandler
  dsimp only
  generalize hinvalid : (if mfUltralightIsI2CTag s.data.type = true then _ else _) = invalid
  split_ifs with hrange haccess hstatic hdynamic
  · exact ok _ rfl
  · exact ok _ rfl
  · exact ok _ rfl
  · exact ok _ rfl
  · have hwrites : s.Writes buffer := by
      constructor
      · exact hinvalid.trans (Bool.eq_false_iff.mpr hrange)
      · simpa using haccess
      · exact Bool.eq_false_iff.mpr hstatic
      · exact Bool.eq_false_iff.mpr hdynamic
    exact (mfUltralightListenerPerformWrite_accounted _ _ _).mono hwrites.subset

lemma mfUltralightCompWriteP2_accounted :
    (mfUltralightCompWriteHandlerP2 s buffer).AccountedFor s
      (mfUltralightCompWriteP2Accesses s buffer) := by
  unfold mfUltralightCompWriteHandlerP2 mfUltralightCompWriteP2Accesses
  split_ifs
  · exact ok _ rfl
  · exact mfUltralightListenerPerformWrite_accounted _ _ _

lemma mfUltralightCompWriteP1_accounted {accesses : List MfUltralightAccess} :
    (mfUltralightCompWriteHandlerP1 s buffer).AccountedFor s accesses := by
  unfold mfUltralightCompWriteHandlerP1
  dsimp only
  split_ifs
  all_goals exact ok _ rfl

lemma writeBytesMid_eq_none {start size : Nat} (h : buffer.writeBytesMid start size = none) :
    ¬(MfUltralightAccess.check (start + size ≤ buffer.getSizeBytes)).Safe s.data.pagesTotal := by
  unfold BitBuffer.writeBytesMid at h
  split_ifs at h with hsize
  simpa using hsize

lemma mfUltralightListenerIncreaseCounter_accounted :
    (mfUltralightListenerIncreaseCounterHandler s buffer).AccountedFor s
      (mfUltralightListenerIncreaseCounterAccesses s buffer) := by
  unfold mfUltralightListenerIncreaseCounterHandler mfUltralightListenerIncreaseCounterAccesses
  dsimp only
  split_ifs with hsupports hnum hmax
  · exact ok _ rfl
  · exact ok _ rfl
  · exact ok _ rfl
  · cases hbytes : buffer.writeBytesMid 2 3 with
    | none => exact error (by simp) (writeBytesMid_eq_none hbytes)
    | some bytes =>
      dsimp only
      split_ifs
      · exact ok _ rfl
      · exact ok _ rfl

lemma mfUltralightListenerAuth_accounted :
    (mfUltralightListenerAuthHandler s buffer).AccountedFor s
      (mfUltralightListenerAuthAccesses s buffer) where
  writes command t ht i hi :=
    absurd (congrFun (mfUltralightListenerAuthHandler_quiet command t ht).2.page_eq i) hi
  faults _ fault hfault := by
    unfold mfUltralightListenerAuthHandler at hfault
    split_ifs at hfault with hsupports
    cases hbytes : buffer.writeBytesMid 1 4 with
    | none =>
      refine ⟨_, ?_, writeBytesMid_eq_none hbytes⟩
      rw [mfUltralightListenerAuthAccesses, if_neg hsupports]
      exact List.mem_append_left _ List.mem_cons_self
    | some password =>
      rw [hbytes] at hfault
      dsimp only at hfault
      split_ifs at hfault

lemma mfUltralightCAuthenticateP2_accounted :
    (mfUltralightCAuthenticateHandlerP2 des3 s buffer).AccountedFor s
      (mfUltralightCAuthenticateP2Accesses s buffer) := by
  unfold mfUltralightCAuthenticateHandlerP2 mfUltralightCAuthenticateP2Accesses
  dsimp only
  split_ifs with hframe htype hvalid
  all_goals first
    | exact ok _ rfl
    | skip
  all_goals
    refine error (List.mem_cons_of_mem _ List.mem_cons_self) ?_
    simpa using htype

lemma mfUltralightCAuthenticateP1_accounted :
    (mfUltralightCAuthenticateHandlerP1 des3 random s buffer).AccountedFor s
      (mfUltralightCAuthenticateP1Accesses s buffer) := by
  unfold mfUltralightCAuthenticateHandlerP1 mfUltralightCAuthenticateP1Accesses
  dsimp only
  split_ifs with hsupports harg htype
  all_goals first
    | exact ok _ rfl
    | skip
  all_goals
    refine error (List.mem_append_right _ (List.mem_append_left _ List.mem_cons_self)) ?_
    simpa using htype

/-! ### One call -/

/-- A handler of the table finds its command, and its list accounts for it. -/
structure MfUltralightListenerCmdHandler.AccountedFor (handler : MfUltralightListenerCmdHandler)
    (s : MfUltralightListener) (buffer : BitBuffer)
    (entry : BitVec 8 × Nat × MfUltralightListenerCommandAccesses) : Prop where
  cmd_eq : handler.cmd = entry.1
  cmdLenBits_eq : handler.cmdLenBits = entry.2.1
  found : ∀ t, handler.callback s buffer ≠ .ok (.notFound, t)
  accounted : (handler.callback s buffer).AccountedFor s (entry.2.2 s buffer)

lemma mfUltralightCommandSearch_accounted {handlers : List MfUltralightListenerCmdHandler}
    {entries : List (BitVec 8 × Nat × MfUltralightListenerCommandAccesses)}
    (h : List.Forall₂ (fun handler entry => handler.AccountedFor s buffer entry) handlers entries) :
    (mfUltralightCommandSearch s buffer handlers).AccountedFor s
      (mfUltralightCommandSearchAccesses s buffer entries) := by
  induction h with
  | nil => exact ok _ rfl
  | @cons handler entry handlers entries hhead _ ih =>
    obtain ⟨hcmd, hlen, hfound, haccounted⟩ := hhead
    rw [mfUltralightCommandSearch, mfUltralightCommandSearchAccesses, hcmd, hlen]
    split_ifs with hsize hbyte
    · exact ih
    · exact ih
    · cases hcall : handler.callback s buffer with
      | error fault =>
        rw [hcall] at haccounted
        exact haccounted
      | ok r =>
        have hne : r.1 ≠ .notFound := by
          intro heq
          exact hfound r.2 (hcall.trans (congrArg Except.ok (Prod.ext heq rfl)))
        rw [hcall] at haccounted
        simpa only [if_pos hne] using haccounted

lemma mfUltralightListenerFastWriteHandler_noFault (fault : MfUltralightFault) :
    mfUltralightListenerFastWriteHandler s buffer ≠ .error fault := by
  unfold mfUltralightListenerFastWriteHandler
  split_ifs <;> exact nofun

lemma mfUltralightListenerReadVersionHandler_noFault (fault : MfUltralightFault) :
    mfUltralightListenerReadVersionHandler s buffer ≠ .error fault := by
  unfold mfUltralightListenerReadVersionHandler
  split_ifs <;> exact nofun

lemma mfUltralightListenerReadSignatureHandler_noFault (fault : MfUltralightFault) :
    mfUltralightListenerReadSignatureHandler s buffer ≠ .error fault := by
  unfold mfUltralightListenerReadSignatureHandler
  split_ifs <;> exact nofun

lemma mfUltralightListenerReadCounterHandler_noFault (fault : MfUltralightFault) :
    mfUltralightListenerReadCounterHandler s buffer ≠ .error fault := by
  unfold mfUltralightListenerReadCounterHandler
  dsimp only
  split_ifs <;> exact nofun

lemma mfUltralightListenerCheckTearingHandler_noFault (fault : MfUltralightFault) :
    mfUltralightListenerCheckTearingHandler s buffer ≠ .error fault := by
  unfold mfUltralightListenerCheckTearingHandler
  dsimp only
  split_ifs <;> exact nofun

lemma mfUltralightListenerVcslHandler_noFault (fault : MfUltralightFault) :
    mfUltralightListenerVcslHandler s buffer ≠ .error fault := by
  unfold mfUltralightListenerVcslHandler
  split_ifs <;> exact nofun

/-- The handlers of a WRITE and of the first frame of a composite command find their command. -/
lemma mfUltralightListenerWritePageHandler_found (t : MfUltralightListener) :
    mfUltralightListenerWritePageHandler s buffer ≠ .ok (.notFound, t) := by
  unfold mfUltralightListenerWritePageHandler
  dsimp only
  generalize (if mfUltralightIsI2CTag s.data.type = true then _ else _) = invalid
  split_ifs
  · exact nofun
  · exact nofun
  · exact nofun
  · exact nofun
  · intro heq
    exact (performWrite_composite s _ _ _).1 (congrArg Prod.fst (Except.ok.inj heq))

lemma mfUltralightCompWriteHandlerP1_found (t : MfUltralightListener) :
    mfUltralightCompWriteHandlerP1 s buffer ≠ .ok (.notFound, t) := by
  unfold mfUltralightCompWriteHandlerP1
  dsimp only
  split_ifs
  all_goals exact nofun

lemma mfUltralightSectorSelectHandlerP1_found (t : MfUltralightListener) :
    mfUltralightSectorSelectHandlerP1 s buffer ≠ .ok (.notFound, t) := by
  unfold mfUltralightSectorSelectHandlerP1
  split_ifs <;> exact nofun

lemma mfUltralightSectorSelectP1_accounted {accesses : List MfUltralightAccess} :
    (mfUltralightSectorSelectHandlerP1 s buffer).AccountedFor s accesses := by
  unfold mfUltralightSectorSelectHandlerP1
  split_ifs <;> exact ok _ rfl

lemma mfUltralightCAuthenticateHandlerP1_found (t : MfUltralightListener) :
    mfUltralightCAuthenticateHandlerP1 des3 random s buffer ≠ .ok (.notFound, t) := by
  unfold mfUltralightCAuthenticateHandlerP1
  dsimp only
  split_ifs
  all_goals exact nofun

lemma mfUltralightCommand_accounted :
    List.Forall₂ (fun handler entry => handler.AccountedFor s buffer entry)
      (mfUltralightCommand des3 random) mfUltralightCommandAccesses := by
  have hquiet {r : MfUltralightHandled} (h : r.Meets s.Quiet) (t : MfUltralightListener) :
      r ≠ .ok (.notFound, t) := fun heq => (h _ t heq).1 rfl
  unfold mfUltralightCommand mfUltralightCommandAccesses
  refine .cons ⟨rfl, rfl, hquiet mfUltralightListenerReadPageHandler_quiet,
    mfUltralightListenerReadPage_accounted⟩ ?_
  refine .cons ⟨rfl, rfl, hquiet mfUltralightListenerFastReadHandler_quiet,
    mfUltralightListenerFastRead_accounted⟩ ?_
  refine .cons ⟨rfl, rfl, mfUltralightListenerWritePageHandler_found,
    mfUltralightListenerWritePage_accounted⟩ ?_
  refine .cons ⟨rfl, rfl, hquiet mfUltralightListenerFastWriteHandler_quiet,
    .of_quiet mfUltralightListenerFastWriteHandler_quiet
      mfUltralightListenerFastWriteHandler_noFault⟩ ?_
  refine .cons ⟨rfl, rfl, hquiet (@mfUltralightListenerReadVersionHandler_quiet s buffer),
    .of_quiet (@mfUltralightListenerReadVersionHandler_quiet s buffer)
      (@mfUltralightListenerReadVersionHandler_noFault s buffer)⟩ ?_
  refine .cons ⟨rfl, rfl, hquiet (@mfUltralightListenerReadSignatureHandler_quiet s buffer),
    .of_quiet (@mfUltralightListenerReadSignatureHandler_quiet s buffer)
      (@mfUltralightListenerReadSignatureHandler_noFault s buffer)⟩ ?_
  refine .cons ⟨rfl, rfl, hquiet mfUltralightListenerReadCounterHandler_quiet,
    .of_quiet mfUltralightListenerReadCounterHandler_quiet
      mfUltralightListenerReadCounterHandler_noFault⟩ ?_
  refine .cons ⟨rfl, rfl, hquiet mfUltralightListenerCheckTearingHandler_quiet,
    .of_quiet mfUltralightListenerCheckTearingHandler_quiet
      mfUltralightListenerCheckTearingHandler_noFault⟩ ?_
  refine .cons ⟨rfl, rfl, hquiet mfUltralightListenerAuthHandler_quiet,
    mfUltralightListenerAuth_accounted⟩ ?_
  refine .cons ⟨rfl, rfl, hquiet mfUltralightListenerIncreaseCounterHandler_quiet,
    mfUltralightListenerIncreaseCounter_accounted⟩ ?_
  refine .cons ⟨rfl, rfl, mfUltralightSectorSelectHandlerP1_found,
    mfUltralightSectorSelectP1_accounted⟩ ?_
  refine .cons ⟨rfl, rfl, mfUltralightCompWriteHandlerP1_found,
    mfUltralightCompWriteP1_accounted⟩ ?_
  refine .cons ⟨rfl, rfl, hquiet (@mfUltralightListenerVcslHandler_quiet s buffer),
    .of_quiet (@mfUltralightListenerVcslHandler_quiet s buffer)
      (@mfUltralightListenerVcslHandler_noFault s buffer)⟩ ?_
  exact .cons ⟨rfl, rfl, mfUltralightCAuthenticateHandlerP1_found,
    mfUltralightCAuthenticateP1_accounted⟩ .nil

lemma MfUltralightCompositeHandler.accounted (handler : MfUltralightCompositeHandler) :
    (mfUltralightCompositeCommandRun des3 handler s buffer).AccountedFor s
      (handler.accesses s buffer) := by
  have hcallback : (handler.callback des3 s buffer).AccountedFor s (handler.accesses s buffer) := by
    cases handler with
    | compWriteP2 => exact mfUltralightCompWriteP2_accounted
    | sectorSelectP2 =>
      change (mfUltralightSectorSelectHandlerP2 s buffer).AccountedFor s _
      unfold mfUltralightSectorSelectHandlerP2
      split_ifs <;> exact ok _ rfl
    | cAuthenticateP2 => exact mfUltralightCAuthenticateP2_accounted
  unfold mfUltralightCompositeCommandRun
  cases hcall : handler.callback des3 s buffer with
  | error fault =>
    rw [hcall] at hcallback
    exact hcallback
  | ok r =>
    rw [hcall] at hcallback
    constructor
    · rintro _ _ ⟨⟩ i hi
      exact hcallback.writes r.1 r.2 rfl i hi
    · exact fun _ _ => nofun

/-- The handler of a standard frame, before the answer to what it returns. -/
def MfUltralightListener.handleFrame (des3 : Des3) (s : MfUltralightListener) (buffer : BitBuffer)
    (random : List (BitVec 8)) : MfUltralightHandled :=
  match s.compositeCallback with
  | some handler => mfUltralightCompositeCommandRun des3 handler s buffer
  | none => mfUltralightCommandSearch s buffer (mfUltralightCommand des3 random)

lemma mfUltralightListenerRun_frame (des3 : Des3) (s : MfUltralightListener) (buffer : BitBuffer)
    (random : List (BitVec 8)) :
    mfUltralightListenerRun des3 s (.receivedStandardFrame buffer random) =
      (s.handleFrame des3 buffer random).map fun r => mfUltralightCommandPostprocess r.1 r.2 :=
  rfl

lemma MfUltralightListener.handleFrame_accounted (des3 : Des3) (s : MfUltralightListener)
    (buffer : BitBuffer) (random : List (BitVec 8)) :
    (s.handleFrame des3 buffer random).AccountedFor s (s.frameAccesses buffer) := by
  unfold handleFrame frameAccesses
  cases s.compositeCallback with
  | none => exact mfUltralightCommandSearch_accounted mfUltralightCommand_accounted
  | some handler => exact handler.accounted

/-- A page that a call changes is in the list. -/
theorem mfUltralightListenerRun_writes {event : MfUltralightEvent} {command : NfcCommand}
    (h : mfUltralightListenerRun des3 s event = .ok (command, t)) {i : Nat}
    (hi : t.data.page i ≠ s.data.page i) :
    .page (i / 4) ∈ mfUltralightListenerRunAccesses s event := by
  cases event with
  | receivedStandardFrame buffer random =>
    have hframe := s.handleFrame_accounted des3 buffer random
    rw [mfUltralightListenerRun_frame] at h
    cases hhandled : s.handleFrame des3 buffer random with
    | error fault =>
      rw [hhandled] at h
      cases h
    | ok r =>
      have hquiet := mfUltralightCommandPostprocess_quiet r.1 r.2
      rw [hhandled] at h
      obtain rfl := congrArg Prod.snd (Except.ok.inj h)
      rw [hquiet.page_eq] at hi
      exact List.mem_append_left _ (List.mem_cons_of_mem _ (hframe.writes r.1 r.2 hhandled i hi))
  | receivedData =>
    cases h
    exact absurd rfl hi
  | fieldOff =>
    cases h
    exact absurd rfl hi
  | halted =>
    cases h
    exact absurd rfl hi

/-- A call that is stopped, when the loop of the mirror ends, has an entry that is not safe. -/
theorem mfUltralightListenerRun_faults (hmirror : (mfUltralightMirrorEnabled s).isOk)
    {event : MfUltralightEvent} {fault : MfUltralightFault}
    (h : mfUltralightListenerRun des3 s event = .error fault) :
    ∃ access ∈ mfUltralightListenerRunAccesses s event, ¬access.Safe s.data.pagesTotal := by
  cases event with
  | receivedStandardFrame buffer random =>
    have hframe := s.handleFrame_accounted des3 buffer random
    rw [mfUltralightListenerRun_frame] at h
    cases hhandled : s.handleFrame des3 buffer random with
    | error fault =>
      obtain ⟨access, hmem, hviolated⟩ := hframe.faults hmirror fault hhandled
      exact ⟨access, List.mem_append_left _ (List.mem_cons_of_mem _ hmem), hviolated⟩
    | ok r =>
      rw [hhandled] at h
      cases h
  | receivedData => cases h
  | fieldOff => cases h
  | halted => cases h

end FlipperZero
