import FlipperZero.Nfc.MfUltralightAccesses

/-!
# Which frames of a MIFARE Ultralight reader do harm

On a tag that has the pages its type relies on, every handler but three stays inside the pages, the
arrays and the buffers. A FAST_READ of 64 pages or more does not fit, a WRITE is accepted for the
page behind the last one, and an authentication is begun on tags without a key. The loader
compares the number of pages with the size of the array only, not with the type.
-/

namespace FlipperZero

open Foundation

/-! ### Tags -/

/-- The bounds of `mf_ultralight_load`; the array of the data holds 510 pages. -/
structure MfUltralightData.Loaded (data : MfUltralightData) : Prop where
  pagesRead : data.pagesRead ≤ 510
  pagesTotal : data.pagesTotal ≤ 510

/-- The pages that the listener looks at whatever the reader asks for: the header, the
configuration, the dynamic lock and the key, as far as the type has them. -/
structure MfUltralightData.HasRegisters (data : MfUltralightData) : Prop where
  header : 4 ≤ data.pagesTotal
  config : mfUltralightGetConfigPageNum data.type ≠ 0 →
    mfUltralightGetConfigPageNum data.type + 4 ≤ data.pagesTotal
  dynamicLock : mfUltralightSupportFeature (mfUltralightGetFeatureSupportSet data.type)
    .dynamicLock = true → mfUltralightDynamicLockPageNum data.type < data.pagesTotal
  key : mfUltralightSupportFeature (mfUltralightGetFeatureSupportSet data.type)
    .authenticate = true → 48 ≤ data.pagesTotal

def MfUltralightEvent.Received : MfUltralightEvent → Prop
  | .receivedStandardFrame buffer _ => buffer.capacityBytes = 256
  | _ => True

namespace MfUltralightListener

/-- The page of an accepted WRITE is not behind the last one. The check of the handler lets the
number of pages pass, and on NTAG I2C it does not look at the number of pages. -/
def WritesInside (s : MfUltralightListener) (page : Nat) : Prop :=
  if mfUltralightIsI2CTag s.data.type then s.memoryPage page true < s.data.pagesTotal
  else page ≠ s.data.pagesTotal

def Harmless (s : MfUltralightListener) : MfUltralightEvent → Prop
  | .receivedStandardFrame buffer _ => s.compositeCallback = none →
    (buffer.getSize = 3 * 8 → buffer.getByte 0 = 0x3A → s.FastReads buffer →
      (mfUltralightMirrorEnabled s).isOk → fastReadPageCnt buffer < 64) ∧
    (buffer.getSize = 6 * 8 → buffer.getByte 0 = 0xA2 → s.Writes buffer →
      s.WritesInside (buffer.getByte 1).toNat) ∧
    (buffer.getSize = 2 * 8 → buffer.getByte 0 = 0x1A →
      s.supports .authenticate = true ∨ buffer.getByte 1 = 0x00)
  | _ => True

def AllSafe (s : MfUltralightListener) (accesses : List MfUltralightAccess) : Prop :=
  ∀ access ∈ accesses, access.Safe s.data.pagesTotal

/-- What every run keeps: the tag, and what the first frame of a composite command has checked. -/
structure Consistent (s : MfUltralightListener) : Prop where
  loaded : s.data.pagesTotal ≤ 510
  registers : s.data.HasRegisters
  sector : s.sector < 256
  compWrite : s.compositeCallback = some .compWriteP2 →
    mfUltralightIsI2CTag s.data.type = false ∧ s.compositeData < s.data.pagesTotal
  cAuthenticate : s.compositeCallback = some .cAuthenticateP2 → s.data.type = .mfulC

end MfUltralightListener

open MfUltralightListener

variable {s t u : MfUltralightListener} {buffer : BitBuffer}

namespace MfUltralightListener.AllSafe

variable {access : MfUltralightAccess} {accesses accesses' : List MfUltralightAccess}

@[simp] lemma nil : s.AllSafe [] := fun _ h => absurd h List.not_mem_nil

@[simp] lemma cons_iff :
    s.AllSafe (access :: accesses) ↔ access.Safe s.data.pagesTotal ∧ s.AllSafe accesses :=
  List.forall_mem_cons

@[simp] lemma append_iff :
    s.AllSafe (accesses ++ accesses') ↔ s.AllSafe accesses ∧ s.AllSafe accesses' :=
  List.forall_mem_append

@[simp] lemma ite_iff {p : Prop} [Decidable p] :
    s.AllSafe (if p then accesses else accesses') ↔
      (p → s.AllSafe accesses) ∧ (¬p → s.AllSafe accesses') := by
  split_ifs with hp <;> simp [hp]

end MfUltralightListener.AllSafe

/-! ### Checks of a page -/

lemma configPage_of_supports {feature : MfUltralightFeatureSupport}
    (hfeature : feature = .passwordAuth ∨ feature = .singleCounter ∨ feature = .asciiMirror ∨
      feature = .vcsl) (h : s.supports feature = true) :
    mfUltralightGetConfigPageNum s.data.type ≠ 0 := by
  unfold supports at h
  generalize s.data.type = type at h ⊢
  rcases hfeature with rfl | rfl | rfl | rfl
  all_goals
    revert h
    cases type <;> decide

lemma configAccess_safe (hs : s.data.HasRegisters)
    (hconfig : mfUltralightGetConfigPageNum s.data.type ≠ 0) (page : Nat) (hpage : page < 4) :
    (configAccess s page).Safe s.data.pagesTotal :=
  Nat.lt_of_lt_of_le (Nat.add_lt_add_left hpage _) (hs.config hconfig)

lemma checkAccess_safe (hs : s.data.HasRegisters) (startPage : Nat)
    (accessType : MfUltralightListenerAccessType) :
    s.AllSafe (mfUltralightListenerCheckAccessAccesses s startPage accessType) := by
  unfold mfUltralightListenerCheckAccessAccesses
  split_ifs with hkey hbehind hpassword
  · exact AllSafe.nil
  · have hpages := hs.key hkey
    simp only [AllSafe.cons_iff, AllSafe.nil, and_true, MfUltralightAccess.safe_page]
    omega
  · have hconfig := configPage_of_supports (.inl rfl) hpassword
    have h0 := configAccess_safe hs hconfig 0 (by decide)
    have h1 := configAccess_safe hs hconfig 1 (by decide)
    simp [mfUltralightCommonCheckAccessAccesses, h0, h1]
  · exact AllSafe.nil

lemma staticLockCheckPage_safe (hs : s.data.HasRegisters) (page : Nat) :
    s.AllSafe (mfUltralightStaticLockCheckPageAccesses page) := by
  have hheader := hs.header
  unfold mfUltralightStaticLockCheckPageAccesses
  split_ifs
  · simp only [AllSafe.cons_iff, AllSafe.nil, and_true, MfUltralightAccess.safe_page]
    omega
  · exact AllSafe.nil

lemma dynamicLockCheckPage_safe (hs : s.data.HasRegisters) (page : Nat) :
    s.AllSafe (mfUltralightDynamicLockCheckPageAccesses s page) := by
  unfold mfUltralightDynamicLockCheckPageAccesses
  split_ifs with h
  · simpa using hs.dynamicLock h.1
  · exact AllSafe.nil

/-! ### Buffers -/

lemma getByteAccess_safe (hbuffer : buffer.capacityBytes = 256) (index : Nat) (h : index < 256)
    (n : Nat) : (getByteAccess buffer index).Safe n := by
  simpa [getByteAccess, hbuffer] using h

lemma sendBytesAccesses_safe_iff {size : Nat} :
    s.AllSafe (sendBytesAccesses size) ↔ size + 2 ≤ 256 := by
  simp only [sendBytesAccesses, sendStandardFrameAccesses, AllSafe.cons_iff, AllSafe.nil, and_true,
    MfUltralightAccess.safe_check, decide_eq_true_eq]
  omega

lemma sendByteAccesses_safe : s.AllSafe sendByteAccesses := by
  simp [sendByteAccesses, sendStandardFrameAccesses]

lemma sendBlockAccesses_safe : s.AllSafe sendBlockAccesses := by
  simp [sendBlockAccesses, sendStandardFrameAccesses]

lemma sendShortRespAccesses_safe : s.AllSafe sendShortRespAccesses := by
  simp [sendShortRespAccesses]

/-! ### Reading -/

lemma mirrorReadPrepare_safe (hs : s.data.HasRegisters) :
    s.AllSafe (mfUltralightMirrorReadPrepareAccesses s) := by
  unfold mfUltralightMirrorReadPrepareAccesses
  rw [AllSafe.ite_iff]
  refine ⟨fun h => ?_, fun _ => AllSafe.nil⟩
  rw [Bool.and_eq_true, decide_eq_true_eq] at h
  simp [configAccess_safe hs h.2]

lemma mirrorReadPrepare_eq {startPage : Nat} (h : mfUltralightMirrorReadPrepare startPage s = .ok u) :
    u.data = s.data ∧
      (u.mirror.enabled = true → mfUltralightGetConfigPageNum s.data.type ≠ 0) := by
  have henabled : ∀ enabled v, mfUltralightMirrorEnabled s = .ok (enabled, v) → v.data = s.data ∧
      (v.mirror.enabled = true → mfUltralightGetConfigPageNum s.data.type ≠ 0) := by
    intro enabled v hv
    unfold mfUltralightMirrorEnabled at hv
    split at hv
    · rename_i hmirror
      rw [Bool.and_eq_true, decide_eq_true_eq] at hmirror
      split at hv
      · cases hv
      · cases hv
        exact ⟨rfl, fun _ => hmirror.2⟩
    · cases hv
      exact ⟨rfl, nofun⟩
  unfold mfUltralightMirrorReadPrepare at h
  split at h
  · cases h
  · cases h
    exact henabled _ _ ‹_›
  · rename_i heq
    obtain rfl := Except.ok.inj h
    have hv := henabled _ _ heq
    exact ⟨hv.1, hv.2⟩

/-- The pages of a read are taken modulo the number of pages, or counted from the first one. -/
lemma readPages_safe (hs : s.data.HasRegisters)
    (henabled : s.mirror.enabled = true → mfUltralightGetConfigPageNum s.data.type ≠ 0)
    (startPage size : Nat) (check : Bool) (n i rollover : Nat) (hsize : i + n ≤ size)
    (hrollover : rollover + n ≤ s.data.pagesTotal) :
    s.AllSafe (mfUltralightListenerReadPagesAccesses s startPage size check n i rollover) := by
  induction n generalizing i rollover with
  | zero => exact AllSafe.nil
  | succ n ih =>
    have hheader := hs.header
    have hstack : (MfUltralightAccess.stackPage i size).Safe s.data.pagesTotal := by
      simp only [MfUltralightAccess.Safe]
      omega
    have hpage (page : Nat) : (MfUltralightAccess.page (page % s.data.pagesTotal)).Safe
        s.data.pagesTotal := Nat.mod_lt _ (by omega)
    have hdivide : (MfUltralightAccess.divide s.data.pagesTotal).Safe s.data.pagesTotal := by
      simp only [MfUltralightAccess.Safe]
      omega
    have hrestricted : (MfUltralightAccess.page rollover).Safe s.data.pagesTotal := by
      simp only [MfUltralightAccess.Safe]
      omega
    have hmirror (h : s.mirror.enabled = true) : (configAccess s 0).Safe s.data.pagesTotal :=
      configAccess_safe hs (henabled h) _ (by decide)
    have hrest : s.AllSafe (mfUltralightListenerReadPagesAccesses s startPage size check n (i + 1)
        rollover) := ih _ _ (by omega) (by omega)
    have hrest' : s.AllSafe (mfUltralightListenerReadPagesAccesses s startPage size check n (i + 1)
        (rollover + 1)) := ih _ _ (by omega) (by omega)
    have hcheck := checkAccess_safe hs (startPage + i) .read
    unfold mfUltralightListenerReadPagesAccesses
    dsimp only
    cases mfUltralightListenerCheckAccess s (startPage + i) .read
    · simp only [hcheck, hstack, hrestricted, hrest, hrest', AllSafe.append_iff, AllSafe.ite_iff,
        AllSafe.cons_iff, AllSafe.nil, Bool.not_false, if_true, true_and, and_true, implies_true]
      exact fun _ => hmirror
    · simp only [hcheck, hstack, hpage, hdivide, hrest, AllSafe.append_iff, AllSafe.ite_iff,
        AllSafe.cons_iff, AllSafe.nil, Bool.not_true, Bool.false_eq_true, if_false, true_and,
        and_true, implies_true]
      exact fun _ => hmirror

lemma mirrorEnabled_isOk {startPage : Nat} (h : mfUltralightMirrorReadPrepare startPage s = .ok u) :
    (mfUltralightMirrorEnabled s).isOk := by
  unfold mfUltralightMirrorReadPrepare at h
  cases henabled : mfUltralightMirrorEnabled s with
  | error fault =>
    rw [henabled] at h
    cases h
  | ok r => rfl

lemma performRead_safe (hs : s.data.HasRegisters) (startPage pageCnt size : Nat)
    (check : Bool) (hfits : pageCnt < 64 → pageCnt ≤ size ∧ pageCnt ≤ s.data.pagesTotal)
    (hcnt : (mfUltralightMirrorEnabled s).isOk → pageCnt < 64) :
    s.AllSafe (mfUltralightListenerPerformReadAccesses s startPage pageCnt size check) := by
  unfold mfUltralightListenerPerformReadAccesses
  rw [AllSafe.append_iff]
  refine ⟨mirrorReadPrepare_safe hs, ?_⟩
  cases hprepare : mfUltralightMirrorReadPrepare startPage s with
  | error fault => exact AllSafe.nil
  | ok u =>
    obtain ⟨hdata, henabled⟩ := mirrorReadPrepare_eq hprepare
    have hcnt := hcnt (mirrorEnabled_isOk hprepare)
    obtain ⟨hsize, htotal⟩ := hfits hcnt
    have hu : u.data.HasRegisters := hdata ▸ hs
    have hpages := readPages_safe hu (hdata ▸ henabled) startPage size check pageCnt
      0 0 (by omega) (by rw [hdata]; omega)
    have hcounter (h : u.supports .singleCounter = true) :
        (configAccess u 1).Safe u.data.pagesTotal :=
      configAccess_safe hu (configPage_of_supports (.inr (.inl rfl)) h) _ (by decide)
    have hsend : u.AllSafe (sendBytesAccesses (pageCnt * 4)) :=
      sendBytesAccesses_safe_iff.mpr (by omega)
    have hall : u.AllSafe (mfUltralightListenerReadPagesAccesses u startPage size check pageCnt 0 0 ++
        (if u.supports .singleCounter then [configAccess u 1] else []) ++
          sendBytesAccesses (pageCnt * 4)) := by
      simpa [hpages, hsend] using hcounter
    intro access hmem
    rw [← hdata]
    exact hall access hmem

lemma readPage_safe (hs : s.data.HasRegisters) (hbuffer : buffer.capacityBytes = 256) :
    s.AllSafe (mfUltralightListenerReadPageAccesses s buffer) := by
  have hbyte := getByteAccess_safe hbuffer 1 (by decide) s.data.pagesTotal
  have hcheck := checkAccess_safe hs (buffer.getByte 1).toNat .read
  have hread := performRead_safe hs (buffer.getByte 1).toNat 4 4
    (mfUltralightIsI2CTag s.data.type) (fun _ => ⟨le_rfl, hs.header⟩) (fun _ => by decide)
  unfold mfUltralightListenerReadPageAccesses
  dsimp only
  generalize (if mfUltralightIsI2CTag s.data.type = true then _ else _) = invalid
  simp [hbyte, hcheck, hread]

/-- On NTAG I2C the dynamic lock is behind the pages that one FAST_READ can return. -/
lemma pagesTotal_of_i2c (hs : s.data.HasRegisters) (hi2c : mfUltralightIsI2CTag s.data.type = true) :
    64 ≤ s.data.pagesTotal := by
  have hdynamic := hs.dynamicLock
  revert hi2c hdynamic
  generalize s.data.type = type
  generalize s.data.pagesTotal = pagesTotal
  cases type
  all_goals first
    | exact fun hi2c => absurd hi2c (by decide)
    | exact fun _ hdynamic => Nat.le_trans (by decide) (Nat.le_of_lt (hdynamic (by decide)))

lemma fastRead_safe (hs : s.data.HasRegisters) (hbuffer : buffer.capacityBytes = 256)
    (hcnt : s.FastReads buffer → (mfUltralightMirrorEnabled s).isOk → fastReadPageCnt buffer < 64) :
    s.AllSafe (mfUltralightListenerFastReadAccesses s buffer) := by
  have hbyte1 := getByteAccess_safe hbuffer 1 (by decide) s.data.pagesTotal
  have hbyte2 := getByteAccess_safe hbuffer 2 (by decide) s.data.pagesTotal
  have hstart := checkAccess_safe hs (buffer.getByte 1).toNat .read
  have hend := checkAccess_safe hs (buffer.getByte 2).toNat .read
  unfold mfUltralightListenerFastReadAccesses
  dsimp only
  generalize hinvalid : (if mfUltralightIsI2CTag s.data.type = true then _ else _) = invalid
  simp only [AllSafe.ite_iff, AllSafe.cons_iff, AllSafe.append_iff, AllSafe.nil, hbyte1, hbyte2,
    hstart, hend, true_and, implies_true]
  intro hsupports hrange horder hstartAccess hendAccess
  have hfast : s.FastReads buffer := by
    constructor
    · simpa using hsupports
    · exact hinvalid.trans (Bool.eq_false_iff.mpr hrange)
    · exact Nat.not_lt.mp horder
    · simpa using hstartAccess
    · simpa using hendAccess
  refine performRead_safe hs _ _ _ _ (fun hlt => ⟨Nat.le_of_lt hlt, ?_⟩) (hcnt hfast)
  -- the last page is on the tag, and an NTAG I2C has more pages than can be read
  by_cases hi2c : mfUltralightIsI2CTag s.data.type = true
  · exact Nat.le_of_lt (Nat.lt_of_lt_of_le hlt (pagesTotal_of_i2c hs hi2c))
  · have hend := hfast.range
    rw [if_neg hi2c, decide_eq_false_iff_not] at hend
    omega

/-! ### Writing -/

lemma performWrite_safe (hs : s.data.HasRegisters) (page : Nat) (check : Bool)
    (hpage : s.memoryPage page check < s.data.pagesTotal) :
    s.AllSafe (mfUltralightListenerPerformWriteAccesses s page check) := by
  have hheader := hs.header
  unfold mfUltralightListenerPerformWriteAccesses
  split_ifs with huid hstatic hcc hdynamic
  · exact AllSafe.nil
  · simp only [AllSafe.cons_iff, AllSafe.nil, and_true, MfUltralightAccess.safe_page]
    omega
  · simp only [AllSafe.cons_iff, AllSafe.nil, and_true, MfUltralightAccess.safe_page]
    omega
  · unfold mfUltralightIsPageDynamicLock at hdynamic
    rw [Bool.and_eq_true] at hdynamic
    simpa using hs.dynamicLock hdynamic.1
  · simpa using hpage

lemma writePage_safe (hs : s.data.HasRegisters) (hbuffer : buffer.capacityBytes = 256)
    (hinside : s.Writes buffer → s.WritesInside (buffer.getByte 1).toNat) :
    s.AllSafe (mfUltralightListenerWritePageAccesses s buffer) := by
  have hbyte := getByteAccess_safe hbuffer 1 (by decide) s.data.pagesTotal
  have hcheck := checkAccess_safe hs (buffer.getByte 1).toNat .write
  have hstaticLock := staticLockCheckPage_safe hs (buffer.getByte 1).toNat
  have hdynamicLock := dynamicLockCheckPage_safe hs (buffer.getByte 1).toNat
  unfold mfUltralightListenerWritePageAccesses
  dsimp only
  generalize hinvalid : (if mfUltralightIsI2CTag s.data.type = true then _ else _) = invalid
  simp only [AllSafe.ite_iff, AllSafe.cons_iff, AllSafe.append_iff, AllSafe.nil, hbyte, hcheck,
    hstaticLock, hdynamicLock, true_and, implies_true]
  intro hrange haccess hstatic hdynamic
  have hwrites : s.Writes buffer := by
    constructor
    · exact hinvalid.trans (Bool.eq_false_iff.mpr hrange)
    · simpa using haccess
    · exact Bool.eq_false_iff.mpr hstatic
    · exact Bool.eq_false_iff.mpr hdynamic
  have hpage := hinside hwrites
  refine performWrite_safe hs _ _ ?_
  unfold WritesInside at hpage
  cases hi2c : mfUltralightIsI2CTag s.data.type with
  | true =>
    rw [hi2c, if_pos rfl] at hpage
    exact hpage
  | false =>
    have hle := hwrites.range
    simp only [hi2c, Bool.false_eq_true, if_false, decide_eq_false_iff_not, Nat.not_lt] at hle hpage
    exact Nat.lt_of_le_of_ne hle hpage

lemma compWriteP1_safe (hs : s.data.HasRegisters) (hbuffer : buffer.capacityBytes = 256) :
    s.AllSafe (mfUltralightCompWriteP1Accesses s buffer) := by
  have hbyte := getByteAccess_safe hbuffer 1 (by decide) s.data.pagesTotal
  have hcheck := checkAccess_safe hs (buffer.getByte 1).toNat .write
  have hstaticLock := staticLockCheckPage_safe hs (buffer.getByte 1).toNat
  have hdynamicLock := dynamicLockCheckPage_safe hs (buffer.getByte 1).toNat
  simp [mfUltralightCompWriteP1Accesses, hbyte, hcheck, hstaticLock, hdynamicLock]

lemma compWriteP2_safe (hs : s.Consistent) (hcomposite : s.compositeCallback = some .compWriteP2) :
    s.AllSafe (mfUltralightCompWriteP2Accesses s buffer) := by
  have hwrite := performWrite_safe hs.registers s.compositeData false
    (hs.compWrite hcomposite).2
  simp [mfUltralightCompWriteP2Accesses, hwrite]

/-! ### Counters and authentication -/

lemma getSizeBytes_of_getSize {n : Nat} (h : buffer.getSize = n * 8) :
    buffer.getSizeBytes = n := by
  unfold BitBuffer.getSize at h
  unfold BitBuffer.getSizeBytes
  rw [h, Nat.mul_div_cancel n (by decide), Nat.mul_mod_left, if_pos rfl, Nat.add_zero]

lemma increaseCounter_safe (hbuffer : buffer.capacityBytes = 256) (hsize : buffer.getSize = 6 * 8) :
    s.AllSafe (mfUltralightListenerIncreaseCounterAccesses s buffer) := by
  have hbyte := getByteAccess_safe hbuffer 1 (by decide) s.data.pagesTotal
  simp [mfUltralightListenerIncreaseCounterAccesses, hbyte, getSizeBytes_of_getSize hsize]

lemma auth_safe (hs : s.data.HasRegisters) (hsize : buffer.getSize = 5 * 8) :
    s.AllSafe (mfUltralightListenerAuthAccesses s buffer) := by
  unfold mfUltralightListenerAuthAccesses
  rw [AllSafe.ite_iff]
  refine ⟨fun _ => AllSafe.nil, fun h => ?_⟩
  have hsupports : s.supports .passwordAuth = true := by simpa using h
  have hconfig {page : Nat} (hpage : page < 4) : (configAccess s page).Safe s.data.pagesTotal :=
    configAccess_safe hs (configPage_of_supports (.inl rfl) hsupports) _ hpage
  have hsend : s.AllSafe (sendBytesAccesses 2) := sendBytesAccesses_safe_iff.mpr (by decide)
  simp [hconfig, hsend, getSizeBytes_of_getSize hsize]

lemma type_of_authenticate (h : s.supports .authenticate = true) : s.data.type = .mfulC := by
  unfold supports at h
  revert h
  cases s.data.type <;> decide

lemma getKey_safe (hs : s.data.HasRegisters) (htype : s.data.type = .mfulC) :
    s.AllSafe (mfUltralight3DesGetKeyAccesses s) := by
  have hkey := hs.key (by rw [htype]; decide)
  simp only [mfUltralight3DesGetKeyAccesses, htype, decide_true, if_true, AllSafe.cons_iff,
    AllSafe.nil, and_true, MfUltralightAccess.safe_check, MfUltralightAccess.safe_page, true_and]
  omega

lemma cAuthenticateP1_safe (hs : s.data.HasRegisters) (hbuffer : buffer.capacityBytes = 256)
    (h : s.supports .authenticate = true ∨ buffer.getByte 1 = 0x00) :
    s.AllSafe (mfUltralightCAuthenticateP1Accesses s buffer) := by
  have hbyte := getByteAccess_safe hbuffer 1 (by decide) s.data.pagesTotal
  have hblock := sendBlockAccesses_safe (s := s)
  unfold mfUltralightCAuthenticateP1Accesses
  rcases h with hsupports | hzero
  · have htype := type_of_authenticate hsupports
    simp [hsupports, htype, getKey_safe hs htype, hblock]
  · by_cases hsupports : s.supports .authenticate = true
    · have htype := type_of_authenticate hsupports
      simp [hsupports, htype, getKey_safe hs htype, hblock]
    · simp [hsupports, hzero, hbyte]

lemma cAuthenticateP2_safe (hs : s.Consistent) (hbuffer : buffer.capacityBytes = 256)
    (hcomposite : s.compositeCallback = some .cAuthenticateP2) :
    s.AllSafe (mfUltralightCAuthenticateP2Accesses s buffer) := by
  have hbyte := getByteAccess_safe hbuffer 0 (by decide) s.data.pagesTotal
  have htype := hs.cAuthenticate hcomposite
  have hblock := sendBlockAccesses_safe (s := s)
  simp [mfUltralightCAuthenticateP2Accesses, hbyte, htype, getKey_safe hs.registers htype, hblock]

/-! ### Frames -/

lemma commandSearch_safe {entries : List (BitVec 8 × Nat × MfUltralightListenerCommandAccesses)}
    (h : ∀ entry ∈ entries, buffer.getSize = entry.2.1 → buffer.getByte 0 = entry.1 →
      s.AllSafe (entry.2.2 s buffer)) :
    s.AllSafe (mfUltralightCommandSearchAccesses s buffer entries) := by
  induction entries with
  | nil => exact AllSafe.nil
  | cons entry entries ih =>
    have hrest := ih fun e he => h e (List.mem_cons_of_mem _ he)
    rw [mfUltralightCommandSearchAccesses]
    split_ifs with hsize hcmd
    · exact hrest
    · exact hrest
    · exact h entry List.mem_cons_self (not_not.mp hsize) (not_not.mp hcmd)

lemma readCounter_safe (hs : s.data.HasRegisters) (hbuffer : buffer.capacityBytes = 256) :
    s.AllSafe (mfUltralightListenerReadCounterAccesses s buffer) := by
  have hbyte := getByteAccess_safe hbuffer 1 (by decide) s.data.pagesTotal
  have hsend : s.AllSafe (sendBytesAccesses 3) := sendBytesAccesses_safe_iff.mpr (by decide)
  have hconfig (h : mfUltralightGetConfigPageNum s.data.type ≠ 0) :=
    configAccess_safe hs h 1 (by decide)
  unfold mfUltralightListenerReadCounterAccesses
  dsimp only
  rw [AllSafe.cons_iff, AllSafe.ite_iff, AllSafe.append_iff, AllSafe.ite_iff]
  refine ⟨hbyte, fun _ => AllSafe.nil, fun _ => ⟨⟨fun h => ?_, fun _ => AllSafe.nil⟩, ?_⟩⟩
  · rw [Bool.and_eq_true, decide_eq_true_eq] at h
    simp [hconfig h.2]
  · simp [hsend]

lemma vcsl_safe (hs : s.data.HasRegisters) :
    s.AllSafe (mfUltralightListenerVcslAccesses s buffer) := by
  have hbyte := sendByteAccesses_safe (s := s)
  unfold mfUltralightListenerVcslAccesses
  rw [AllSafe.ite_iff, AllSafe.ite_iff]
  refine ⟨fun _ => AllSafe.nil, fun _ => ⟨fun _ => AllSafe.nil, fun h => ?_⟩⟩
  simp [configAccess_safe hs h, hbyte]

lemma MfUltralightListener.Harmless.frame_safe (hs : s.Consistent) {random : List (BitVec 8)}
    (hbuffer : buffer.capacityBytes = 256)
    (h : s.Harmless (.receivedStandardFrame buffer random)) :
    s.AllSafe (s.frameAccesses buffer) := by
  have hregisters := hs.registers
  have hbyte {index : Nat} (hindex : index < 256) :=
    getByteAccess_safe hbuffer _ hindex s.data.pagesTotal
  unfold frameAccesses
  cases hcomposite : s.compositeCallback with
  | some handler =>
    cases handler with
    | compWriteP2 => exact compWriteP2_safe hs hcomposite
    | sectorSelectP2 =>
      simp [MfUltralightCompositeHandler.accesses, mfUltralightSectorSelectP2Accesses, hbyte]
    | cAuthenticateP2 => exact cAuthenticateP2_safe hs hbuffer hcomposite
  | none =>
    obtain ⟨hfastRead, hwrite, hauthenticate⟩ := h hcomposite
    refine commandSearch_safe fun entry hentry hsize hcmd => ?_
    simp only [mfUltralightCommandAccesses, List.mem_cons, List.not_mem_nil, or_false] at hentry
    rcases hentry with rfl | rfl | rfl | rfl | rfl | rfl | rfl | rfl | rfl | rfl | rfl | rfl |
      rfl | rfl
    · exact readPage_safe hregisters hbuffer
    · exact fastRead_safe hregisters hbuffer (hfastRead hsize hcmd)
    · exact writePage_safe hregisters hbuffer (hwrite hsize hcmd)
    · simp [mfUltralightListenerFastWriteAccesses, hbyte]
    · simp [mfUltralightListenerReadVersionAccesses, sendBytesAccesses_safe_iff]
    · simp [mfUltralightListenerReadSignatureAccesses, sendBytesAccesses_safe_iff]
    · exact readCounter_safe hregisters hbuffer
    · simp [mfUltralightListenerCheckTearingAccesses, hbyte, sendByteAccesses_safe]
    · exact auth_safe hregisters hsize
    · exact increaseCounter_safe hbuffer hsize
    · simp [mfUltralightSectorSelectP1Accesses, hbyte]
    · exact compWriteP1_safe hregisters hbuffer
    · exact @vcsl_safe s buffer hregisters
    · exact cAuthenticateP1_safe hregisters hbuffer (hauthenticate hsize hcmd)

/-! ### The three frames -/

lemma i2cProvidePage_of_meaning {type : MfUltralightType} {page : Nat} (sector : Nat)
    (hi2c : mfUltralightIsI2CTag type = true) (hpage : page < 256)
    (h : sector = 0 ∧ page < 4 ∨ page + sector * 256 = mfUltralightDynamicLockPageNum type) :
    mfUltralightI2CProvidePageByRequested page type sector = page + sector * 256 := by
  have hmod : page % 256 = page := Nat.mod_eq_of_lt hpage
  -- the lock is in sector 0, on the larger NTAG I2C in sector 1
  have hlock : mfUltralightDynamicLockPageNum type = 226 ∨
      (type = .ntagI2C2K ∧ mfUltralightDynamicLockPageNum type = 480) := by
    revert hi2c
    cases type <;> decide
  have hsector : sector = 0 ∧ page ≤ 226 ∨ type = .ntagI2C2K ∧ sector = 1 := by
    rcases hlock with hlock | ⟨htype, hlock⟩
    · exact .inl (by omega)
    · rcases h with h | h
      · exact .inl (by omega)
      · exact .inr ⟨htype, by omega⟩
  rcases hsector with ⟨rfl, hbound⟩ | ⟨rfl, rfl⟩
  · rw [Nat.zero_mul, Nat.add_zero, mfUltralightI2CProvidePageByRequested]
    unfold mfUltralightI2CPageProviderForSector0
    split
    · rw [if_neg (by omega), if_neg (by omega), hmod]
    · rw [if_neg (by omega), if_neg (by omega), hmod]
    · rw [if_neg (by omega), if_neg (by omega), hmod]
    · exact hmod
  · rfl

lemma MfUltralightListener.WritesInside.of_safe (hs : s.Consistent)
    (h : s.AllSafe (mfUltralightListenerPerformWriteAccesses s (buffer.getByte 1).toNat
      (mfUltralightIsI2CTag s.data.type))) : s.WritesInside (buffer.getByte 1).toNat := by
  have hheader := hs.registers.header
  have hsector := hs.sector
  have hpage : (buffer.getByte 1).toNat < 256 := (buffer.getByte 1).isLt
  generalize (buffer.getByte 1).toNat = page at h hpage ⊢
  have hlinear : s.linearPage page = page + s.sector * 256 := by
    unfold linearPage
    omega
  unfold WritesInside
  cases hi2c : mfUltralightIsI2CTag s.data.type with
  | false =>
    rw [if_neg Bool.false_ne_true]
    rintro rfl
    -- the page behind the last one is none of the pages with a meaning
    have hdynamic : mfUltralightIsPageDynamicLock s s.data.pagesTotal = false := by
      unfold mfUltralightIsPageDynamicLock
      cases hsupports : s.supports .dynamicLock with
      | false => rfl
      | true =>
        have hlock := hs.registers.dynamicLock hsupports
        rw [Bool.true_and, beq_eq_false_iff_ne, hlinear]
        omega
    unfold mfUltralightListenerPerformWriteAccesses at h
    rw [if_neg (by omega), if_neg (by omega), if_neg (by omega), hdynamic,
      if_neg Bool.false_ne_true, hi2c, AllSafe.cons_iff] at h
    exact Nat.lt_irrefl _ h.1
  | true =>
    have hlock := hs.registers.dynamicLock
    have hmeaning := i2cProvidePage_of_meaning s.sector hi2c hpage
    rw [if_pos rfl]
    rw [hi2c] at h
    unfold mfUltralightListenerPerformWriteAccesses at h
    split_ifs at h with huid hstatic hcc hdynamic
    · rw [memoryPage, if_pos rfl, hmeaning (.inl ⟨huid.2, by omega⟩)]
      omega
    · rw [memoryPage, if_pos rfl, hmeaning (.inl ⟨hstatic.2, by omega⟩)]
      omega
    · rw [memoryPage, if_pos rfl, hmeaning (.inl ⟨hcc.2, by omega⟩)]
      omega
    · unfold mfUltralightIsPageDynamicLock at hdynamic
      rw [Bool.and_eq_true, beq_iff_eq, hlinear] at hdynamic
      rw [memoryPage, if_pos rfl, hmeaning (.inr hdynamic.2), hdynamic.2]
      exact hlock hdynamic.1
    · exact (AllSafe.cons_iff.mp h).1

lemma MfUltralightListener.Harmless.of_safe (hs : s.Consistent) {random : List (BitVec 8)}
    (h : s.AllSafe (s.frameAccesses buffer)) :
    s.Harmless (.receivedStandardFrame buffer random) := by
  intro hcomposite
  unfold frameAccesses at h
  rw [hcomposite] at h
  refine ⟨fun hsize hcmd hfast hmirror => ?_, fun hsize hcmd hwrites => ?_, fun hsize hcmd => ?_⟩
  · have hentry : mfUltralightCommandSearchAccesses s buffer mfUltralightCommandAccesses =
        mfUltralightListenerFastReadAccesses s buffer := by
      simp [mfUltralightCommandAccesses, mfUltralightCommandSearchAccesses, hsize, hcmd]
    have hsend : s.AllSafe (sendBytesAccesses (fastReadPageCnt buffer * 4)) := by
      intro access hmem
      refine h access ?_
      rw [hentry]
      exact hfast.subset (sendBytesAccesses_subset hmirror hmem)
    have hfits := sendBytesAccesses_safe_iff.mp hsend
    omega
  · have hentry : mfUltralightCommandSearchAccesses s buffer mfUltralightCommandAccesses =
        mfUltralightListenerWritePageAccesses s buffer := by
      simp [mfUltralightCommandAccesses, mfUltralightCommandSearchAccesses, hsize, hcmd]
    refine .of_safe hs fun access hmem => h access ?_
    rw [hentry]
    exact hwrites.subset hmem
  · have hentry : mfUltralightCommandSearchAccesses s buffer mfUltralightCommandAccesses =
        mfUltralightCAuthenticateP1Accesses s buffer := by
      simp [mfUltralightCommandAccesses, mfUltralightCommandSearchAccesses, hsize, hcmd]
    by_contra hnot
    obtain ⟨hsupports, harg⟩ := not_or.mp hnot
    have htype : s.data.type = .mfulC := by
      have hcheck : (MfUltralightAccess.check (s.data.type = .mfulC)).Safe s.data.pagesTotal := by
        refine h _ ?_
        have hgoes : ¬((!s.supports .authenticate) = true ∧ buffer.getByte 1 = 0x00) :=
          fun h => harg h.2
        rw [hentry, mfUltralightCAuthenticateP1Accesses, if_neg hgoes]
        exact List.mem_append_right _ (List.mem_append_left _ List.mem_cons_self)
      simpa using hcheck
    refine hsupports ?_
    rw [supports, htype]
    decide

/-! ### Runs -/

namespace MfUltralightListener

lemma Consistent.of_eq (hs : s.Consistent) (htype : t.data.type = s.data.type)
    (htotal : t.data.pagesTotal = s.data.pagesTotal) (hsector : t.sector = s.sector)
    (hcomposite : t.compositeCallback = s.compositeCallback)
    (hcompositeData : t.compositeData = s.compositeData) : t.Consistent := by
  obtain ⟨hloaded, ⟨hheader, hconfig, hdynamic, hkey⟩, hsector', hcompWrite, hcAuthenticate⟩ := hs
  rw [← htype] at hconfig hdynamic hkey hcompWrite hcAuthenticate
  rw [← htotal] at hloaded hheader hconfig hdynamic hkey hcompWrite
  rw [← hcomposite] at hcompWrite hcAuthenticate
  rw [← hcompositeData] at hcompWrite
  rw [← hsector] at hsector'
  exact ⟨hloaded, ⟨hheader, hconfig, hdynamic, hkey⟩, hsector', hcompWrite, hcAuthenticate⟩

lemma Quiet.consistent (h : s.Quiet t) (hs : s.Consistent) : t.Consistent :=
  hs.of_eq h.type_eq h.pagesTotal_eq h.sector_eq h.composite_eq h.compositeData_eq

/-- Without a composite command only the tag and the sector matter. -/
lemma Consistent.of_none (hs : s.Consistent) (htype : t.data.type = s.data.type)
    (htotal : t.data.pagesTotal = s.data.pagesTotal) (hsector : t.sector < 256)
    (hnone : t.compositeCallback = none) : t.Consistent := by
  obtain ⟨hloaded, ⟨hheader, hconfig, hdynamic, hkey⟩, -, -, -⟩ := hs
  rw [← htype] at hconfig hdynamic hkey
  rw [← htotal] at hloaded hheader hconfig hdynamic hkey
  constructor
  · exact hloaded
  · exact ⟨hheader, hconfig, hdynamic, hkey⟩
  · exact hsector
  · intro hcomposite
    cases hnone.symm.trans hcomposite
  · intro hcomposite
    cases hnone.symm.trans hcomposite

end MfUltralightListener

open MfUltralightHandled.Meets

lemma performWrite_consistent (hs : s.Consistent) (rxData : Memory) (page : Nat) (check : Bool) :
    (mfUltralightListenerPerformWrite s rxData page check).2.Consistent := by
  unfold mfUltralightListenerPerformWrite
  split_ifs
  all_goals exact hs.of_eq rfl rfl rfl rfl rfl

lemma writePage_consistent (hs : s.Consistent) :
    (mfUltralightListenerWritePageHandler s buffer).Meets Consistent := by
  unfold mfUltralightListenerWritePageHandler
  dsimp only
  generalize (if mfUltralightIsI2CTag s.data.type = true then _ else _) = invalid
  split_ifs
  · exact ok nofun hs
  · exact ok nofun hs
  · exact ok nofun hs
  · exact ok nofun hs
  · exact pair (performWrite_composite s _ _ _).1 (performWrite_consistent hs _ _ _)

lemma compWriteP1_consistent (hs : s.Consistent) :
    (mfUltralightCompWriteHandlerP1 s buffer).Meets Consistent := by
  have hheader := hs.registers.header
  have hloaded := hs.loaded
  unfold mfUltralightCompWriteHandlerP1
  dsimp only
  split_ifs with hsupports hrange haccess hlocks
  · exact ok nofun hs
  · exact ok nofun hs
  · exact ok nofun hs
  · exact ok nofun hs
  · rw [Bool.not_eq_true, Bool.not_eq_false'] at hsupports
    refine ok nofun ⟨hs.loaded, hs.registers, hs.sector, fun _ => ⟨?_, ?_⟩, nofun⟩
    · exact mfUltralightIsI2CTag_of_compatibleWrite hsupports
    · -- the page is not behind the last one
      change (buffer.getByte 1).toNat < s.data.pagesTotal
      omega

lemma sectorSelectP1_consistent (hs : s.Consistent) :
    (mfUltralightSectorSelectHandlerP1 s buffer).Meets Consistent := by
  unfold mfUltralightSectorSelectHandlerP1
  split_ifs
  · exact ok nofun hs
  · exact ok nofun ⟨hs.loaded, hs.registers, hs.sector, nofun, nofun⟩

variable {des3 : Des3} {random : List (BitVec 8)}

lemma cAuthenticateP1_consistent (hs : s.Consistent) :
    (mfUltralightCAuthenticateHandlerP1 des3 random s buffer).Meets Consistent := by
  unfold mfUltralightCAuthenticateHandlerP1
  dsimp only
  split_ifs with hsupports htype
  · exact ok nofun hs
  · exact error
  · exact ok nofun ⟨hs.loaded, hs.registers, hs.sector, nofun, fun _ => not_not.mp htype⟩

lemma command_consistent (hs : s.Consistent) {handler : MfUltralightListenerCmdHandler}
    (hmem : handler ∈ mfUltralightCommand des3 random) :
    (handler.callback s buffer).Meets Consistent := by
  have hquiet : ∀ t, s.Quiet t → t.Consistent := fun t h => h.consistent hs
  simp only [mfUltralightCommand, List.mem_cons, List.not_mem_nil, or_false] at hmem
  rcases hmem with rfl | rfl | rfl | rfl | rfl | rfl | rfl | rfl | rfl | rfl | rfl | rfl | rfl | rfl
  · exact mfUltralightListenerReadPageHandler_quiet.mono hquiet
  · exact mfUltralightListenerFastReadHandler_quiet.mono hquiet
  · exact writePage_consistent hs
  · exact mfUltralightListenerFastWriteHandler_quiet.mono hquiet
  · exact mono (@mfUltralightListenerReadVersionHandler_quiet s buffer) hquiet
  · exact mono (@mfUltralightListenerReadSignatureHandler_quiet s buffer) hquiet
  · exact mfUltralightListenerReadCounterHandler_quiet.mono hquiet
  · exact mfUltralightListenerCheckTearingHandler_quiet.mono hquiet
  · exact mfUltralightListenerAuthHandler_quiet.mono hquiet
  · exact mfUltralightListenerIncreaseCounterHandler_quiet.mono hquiet
  · exact sectorSelectP1_consistent hs
  · exact compWriteP1_consistent hs
  · exact mono (@mfUltralightListenerVcslHandler_quiet s buffer) hquiet
  · exact cAuthenticateP1_consistent hs

lemma compositeCommandRun_consistent (hs : s.Consistent)
    (handler : MfUltralightCompositeHandler) {command : MfUltralightCommand}
    (h : mfUltralightCompositeCommandRun des3 handler s buffer = .ok (command, t)) :
    t.Consistent := by
  have hcallback : (handler.callback des3 s buffer).Meets fun u =>
      u.data.type = s.data.type ∧ u.data.pagesTotal = s.data.pagesTotal ∧ u.sector < 256 := by
    cases handler with
    | compWriteP2 =>
      change (mfUltralightCompWriteHandlerP2 s buffer).Meets _
      unfold mfUltralightCompWriteHandlerP2
      split_ifs
      · exact ok nofun ⟨rfl, rfl, hs.sector⟩
      · refine pair (performWrite_composite s _ _ _).1 ?_
        unfold mfUltralightListenerPerformWrite
        split_ifs
        all_goals exact ⟨rfl, rfl, hs.sector⟩
    | sectorSelectP2 =>
      change (mfUltralightSectorSelectHandlerP2 s buffer).Meets _
      unfold mfUltralightSectorSelectHandlerP2
      split_ifs
      · exact ok nofun ⟨rfl, rfl, hs.sector⟩
      · exact ok nofun ⟨rfl, rfl, hs.sector⟩
      · exact ok nofun ⟨rfl, rfl, (buffer.getByte 0).isLt⟩
    | cAuthenticateP2 =>
      exact mfUltralightCAuthenticateHandlerP2_quiet.mono fun u hu =>
        ⟨hu.type_eq, hu.pagesTotal_eq, hu.sector_eq ▸ hs.sector⟩
  unfold mfUltralightCompositeCommandRun at h
  cases hcall : handler.callback des3 s buffer with
  | error fault =>
    rw [hcall] at h
    cases h
  | ok r =>
    obtain ⟨htype, htotal, hsector⟩ := (hcallback r.1 r.2 hcall).2
    rw [hcall] at h
    cases h
    exact hs.of_none htype htotal hsector rfl

lemma mfUltralightListenerRun_consistent (hs : s.Consistent) {event : MfUltralightEvent}
    {command : NfcCommand} (h : mfUltralightListenerRun des3 s event = .ok (command, t)) :
    t.Consistent := by
  cases event with
  | receivedStandardFrame buffer random =>
    rw [mfUltralightListenerRun_frame] at h
    cases hhandled : s.handleFrame des3 buffer random with
    | error fault =>
      rw [hhandled] at h
      cases h
    | ok r =>
      have hr : r.2.Consistent := by
        unfold handleFrame at hhandled
        split at hhandled
        · exact compositeCommandRun_consistent hs _ hhandled
        · exact mfUltralightCommandSearch_kept hs
            (fun handler hmem _ _ => command_consistent hs hmem) hhandled
      rw [hhandled] at h
      obtain rfl := congrArg Prod.snd (Except.ok.inj h)
      exact (mfUltralightCommandPostprocess_quiet r.1 r.2).consistent hr
  | receivedData =>
    cases h
    exact hs.of_none rfl rfl (Nat.succ_pos 255) rfl
  | fieldOff =>
    cases h
    exact hs.of_none rfl rfl (Nat.succ_pos 255) rfl
  | halted =>
    cases h
    exact hs.of_none rfl rfl (Nat.succ_pos 255) rfl

lemma mfUltralightSystem_consistent {P : MfUltralightListener → MfUltralightEvent → Prop}
    (hs : s.Consistent) (hrun : (mfUltralightSystem des3).Reaches P s t) : t.Consistent := by
  refine hrun.invariant hs fun t u event ht _ hstep => ?_
  obtain ⟨r, hr, rfl⟩ := Option.map_eq_some_iff.mp hstep
  cases hcall : mfUltralightListenerRun des3 t event with
  | error fault =>
    rw [hcall] at hr
    cases hr
  | ok r' =>
    rw [hcall] at hr
    obtain rfl := Option.some.inj hr
    exact mfUltralightListenerRun_consistent ht hcall

/-- On every tag that is loaded and has the pages its type relies on, and behind every run of
harmless frames: a frame is handled inside the pages of the tag, the arrays and the buffers, and
without a division by zero, if and only if it is harmless. -/
theorem mfUltralightListener_accessSafe (des3 : Des3) (data : MfUltralightData)
    (hloaded : data.Loaded) (hregisters : data.HasRegisters) {s : MfUltralightListener}
    (hrun : (mfUltralightSystem des3).Reaches Harmless (mfUltralightListenerAlloc data) s)
    (event : MfUltralightEvent) (hevent : event.Received) :
    s.AllSafe (mfUltralightListenerRunAccesses s event) ↔ s.Harmless event := by
  have hinit : (mfUltralightListenerAlloc data).Consistent :=
    ⟨hloaded.pagesTotal, hregisters, Nat.succ_pos 255, nofun, nofun⟩
  have hs := mfUltralightSystem_consistent hinit hrun
  cases event with
  | receivedStandardFrame buffer random =>
    have hbyte := getByteAccess_safe hevent 0 (by decide) s.data.pagesTotal
    rw [mfUltralightListenerRunAccesses, List.cons_append, AllSafe.cons_iff, AllSafe.append_iff]
    constructor
    · rintro ⟨-, hframe, -⟩
      exact .of_safe hs hframe
    · intro h
      exact ⟨hbyte, h.frame_safe hs hevent, sendShortRespAccesses_safe⟩
  | receivedData => exact ⟨fun _ => trivial, fun _ => AllSafe.nil⟩
  | fieldOff => exact ⟨fun _ => trivial, fun _ => AllSafe.nil⟩
  | halted => exact ⟨fun _ => trivial, fun _ => AllSafe.nil⟩

/-- A FAST_READ of 63 pages of an NTAG215. -/
theorem mfUltralightListener_accessSafe_fastRead :
    (mfUltralightListenerAlloc (mfUltralightBlank .ntag215)).AllSafe
      (mfUltralightListenerRunAccesses (mfUltralightListenerAlloc (mfUltralightBlank .ntag215))
        (mfUltralightFrame [0x3A, 0x00, 0x3E])) := by
  have hregisters : (mfUltralightBlank .ntag215).HasRegisters :=
    ⟨by decide, by decide, by decide, by decide⟩
  refine (mfUltralightListener_accessSafe idleDes3 (mfUltralightBlank .ntag215)
    ⟨by decide, by decide⟩ hregisters .refl (mfUltralightFrame [0x3A, 0x00, 0x3E]) rfl).mpr ?_
  intro _
  refine ⟨fun _ _ _ _ => by decide, fun hsize => ?_, fun hsize => ?_⟩
  · exact absurd hsize (by decide)
  · exact absurd hsize (by decide)

/-- The pages of the configuration are looked at on an NTAG213 that was loaded with ten pages. -/
example :
    ¬(mfUltralightListenerAlloc { mfUltralightBlank .ntag213 with pagesTotal := 10 }).AllSafe
      (mfUltralightListenerRunAccesses
        (mfUltralightListenerAlloc { mfUltralightBlank .ntag213 with pagesTotal := 10 })
        (mfUltralightFrame [0x30, 0x00])) := by
  unfold AllSafe
  decide +kernel

/-- An Ultralight is asked for the authentication of an Ultralight C, with an argument that is not
zero: the check of the type of the tag fails. -/
theorem mfUltralightListener_accessUnsafe :
    ¬∀ (des3 : Des3) (data : MfUltralightData), data.Loaded → ∀ (s : MfUltralightListener),
      (mfUltralightSystem des3).Reaches (fun _ _ => True) (mfUltralightListenerAlloc data) s →
      ∀ event : MfUltralightEvent, event.Received →
        s.AllSafe (mfUltralightListenerRunAccesses s event) ∧
          mfUltralightListenerRun des3 s event ≠ .error .furiCheck := by
  intro h
  refine (h idleDes3 (mfUltralightBlank .origin) ⟨by decide, by decide⟩ _ .refl
    (mfUltralightFrame [0x1A, 0x01]) rfl).2 ?_
  rfl

/-! ### Inside the tag -/

namespace MfUltralightListener

/-- Behind every run of harmless frames a harmless frame is handled to its end, unless the loop of
the mirror goes on for ever, and nothing changes behind the pages of the tag. -/
theorem staysInside (des3 : Des3) (data : MfUltralightData) (hloaded : data.Loaded)
    (hregisters : data.HasRegisters) {s : MfUltralightListener}
    (hrun : (mfUltralightSystem des3).Reaches Harmless (mfUltralightListenerAlloc data) s)
    (event : MfUltralightEvent) (hevent : event.Received) (hharmless : s.Harmless event)
    (hmirror : (mfUltralightMirrorEnabled s).isOk) :
    ∃ command t, mfUltralightListenerRun des3 s event = .ok (command, t) ∧
      ∀ i, s.data.pagesTotal * 4 ≤ i → t.data.page i = s.data.page i := by
  have hinit : (mfUltralightListenerAlloc data).Consistent :=
    ⟨hloaded.pagesTotal, hregisters, Nat.succ_pos 255, nofun, nofun⟩
  have hs := mfUltralightSystem_consistent hinit hrun
  have hsafe : s.AllSafe (mfUltralightListenerRunAccesses s event) := by
    cases event with
    | receivedStandardFrame buffer random =>
      exact AllSafe.cons_iff.mpr ⟨getByteAccess_safe hevent 0 (by decide) s.data.pagesTotal,
        AllSafe.append_iff.mpr ⟨hharmless.frame_safe hs hevent, sendShortRespAccesses_safe⟩⟩
    | _ => exact AllSafe.nil
  cases hcall : mfUltralightListenerRun des3 s event with
  | error fault =>
    obtain ⟨access, hmem, hunsafe⟩ := mfUltralightListenerRun_faults hmirror hcall
    exact absurd (hsafe access hmem) hunsafe
  | ok r =>
    refine ⟨r.1, r.2, rfl, fun i hi => ?_⟩
    by_contra hchanged
    have hpage : i / 4 < s.data.pagesTotal :=
      hsafe _ (mfUltralightListenerRun_writes hcall hchanged)
    omega

/-- A FAST_READ of 63 pages of an NTAG215. -/
theorem staysInside_fastRead :
    ∃ command t, mfUltralightListenerRun idleDes3
        (mfUltralightListenerAlloc (mfUltralightBlank .ntag215))
        (mfUltralightFrame [0x3A, 0x00, 0x3E]) = .ok (command, t) ∧ ∀ i, 135 * 4 ≤ i →
      t.data.page i = 0 := by
  refine staysInside idleDes3 (mfUltralightBlank .ntag215) ⟨by decide, by decide⟩
    ⟨by decide, by decide, by decide, by decide⟩ .refl (mfUltralightFrame [0x3A, 0x00, 0x3E]) rfl
    (fun _ => ⟨fun _ _ _ _ => by decide, fun hsize => ?_, fun hsize => ?_⟩) (by decide)
  · exact absurd hsize (by decide)
  · exact absurd hsize (by decide)

end MfUltralightListener

end FlipperZero
