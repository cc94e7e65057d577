import FlipperZero.Nfc.MfUltralightCommands

/-!
# Locks of the emulated MIFARE Ultralight

What a reader must not be able to undo: the pages of the UID, the lock bits and the bits of the
capability container that are set, the pages that lock bits cover and the lock bits that
block-locking bits freeze. `MfUltralightListener.Preserved` states it between two states of the
listener. Runs keep it as long as no write is `Misdirected`: the check of the dynamic locks and
the special pages are recognised from the page number and the selected sector, while the write
goes to a page of the memory.
-/

namespace FlipperZero

open Foundation

/-! ### What the locks say -/

/-- The page of the memory at an address: a page in a sector. Tags without sectors have the
sector 0 only. -/
def mfUltralightPageAt (type : MfUltralightType) (sector page : Nat) : Option Nat :=
  if mfUltralightIsI2CTag type then
    if mfUltralightI2CValidatePages page page type sector then
      some (mfUltralightI2CProvidePageByRequested page type sector)
    else none
  else if sector = 0 then some page else none

variable {s t u : MfUltralightListener}

namespace MfUltralightListener

/-- A page of the memory is covered by a static lock bit, or by a dynamic one at an address of
the page. -/
def Covered (s : MfUltralightListener) (p : Nat) : Prop :=
  mfUltralightStaticLockCheckPage s.staticLock p = true ∨
    ∃ sector page, page < 256 ∧ mfUltralightPageAt s.data.type sector page = some p ∧
      mfUltralightDynamicLockCheckPage { s with sector := sector } page = true

/-- A static lock bit is frozen by a block-locking bit. -/
def StaticFrozen (s : MfUltralightListener) (k : Nat) : Prop :=
  k = 3 ∧ s.staticLock.getLsbD 0 = true ∨
    (4 ≤ k ∧ k ≤ 9) ∧ s.staticLock.getLsbD 1 = true ∨
    (10 ≤ k ∧ k ≤ 15) ∧ s.staticLock.getLsbD 2 = true

/-- A dynamic lock bit is frozen by a block-locking bit. -/
def DynamicFrozen (s : MfUltralightListener) (k : Nat) : Prop :=
  k < 16 ∧ s.dynamicLock.getLsbD (k / 2 + 16) = true

/-- What is kept from a state to a later one. -/
structure Preserved (s t : MfUltralightListener) : Prop where
  type_eq : t.data.type = s.data.type
  uidPages : ∀ i < 8, t.data.page i = s.data.page i
  staticLock : Grows s.staticLock t.staticLock
  capabilityContainer : Grows (Memory.load 32 s.data.page (4 * 3)) (Memory.load 32 t.data.page (4 * 3))
  dynamicLock : s.supports .dynamicLock = true → Grows s.dynamicLock t.dynamicLock
  covered : ∀ p, s.Covered p → ∀ i < 4, t.data.pageBytes p i = s.data.pageBytes p i
  staticFrozen : ∀ k, s.StaticFrozen k → t.staticLock.getLsbD k = s.staticLock.getLsbD k
  dynamicFrozen : s.supports .dynamicLock = true → ∀ k, s.DynamicFrozen k →
    t.dynamicLock.getLsbD k = s.dynamicLock.getLsbD k

lemma supports_congr (h : t.data.type = s.data.type) (feature : MfUltralightFeatureSupport) :
    t.supports feature = s.supports feature := by
  rw [supports, supports, h]

lemma dynamicLockCheckPage_of_grows (htype : t.data.type = s.data.type)
    (hsector : t.sector = s.sector)
    (hgrows : s.supports .dynamicLock = true → Grows s.dynamicLock t.dynamicLock) {page : Nat}
    (h : mfUltralightDynamicLockCheckPage s page = true) :
    mfUltralightDynamicLockCheckPage t page = true := by
  unfold mfUltralightDynamicLockCheckPage at h ⊢
  rw [supports_congr htype, linearPage, hsector, htype, ← linearPage]
  split_ifs at h ⊢ with hrange
  rw [BitVec.getLsbD_setWidth, Bool.and_eq_true] at h ⊢
  exact ⟨h.1, hgrows hrange.1 _ h.2⟩

namespace Preserved

protected lemma refl (s : MfUltralightListener) : s.Preserved s where
  type_eq := rfl
  uidPages _ _ := rfl
  staticLock := .refl _
  capabilityContainer := .refl _
  dynamicLock _ := .refl _
  covered _ _ _ _ := rfl
  staticFrozen _ _ := rfl
  dynamicFrozen _ _ _ := rfl

lemma covered_of (h : s.Preserved t) {p : Nat} (hp : s.Covered p) : t.Covered p := by
  rcases hp with hstatic | ⟨sector, page, hpage, hat, hcheck⟩
  · left
    unfold mfUltralightStaticLockCheckPage at hstatic ⊢
    split_ifs at hstatic ⊢
    exact h.staticLock _ hstatic
  · refine .inr ⟨sector, page, hpage, by rw [h.type_eq]; exact hat, ?_⟩
    exact @dynamicLockCheckPage_of_grows { s with sector := sector } { t with sector := sector }
      h.type_eq rfl h.dynamicLock _ hcheck

protected lemma trans (hst : s.Preserved t) (htu : t.Preserved u) : s.Preserved u where
  type_eq := htu.type_eq.trans hst.type_eq
  uidPages i hi := (htu.uidPages i hi).trans (hst.uidPages i hi)
  staticLock := hst.staticLock.trans htu.staticLock
  capabilityContainer := hst.capabilityContainer.trans htu.capabilityContainer
  dynamicLock hsupports := (hst.dynamicLock hsupports).trans
    (htu.dynamicLock ((supports_congr hst.type_eq _).trans hsupports))
  covered p hp i hi := (htu.covered p (hst.covered_of hp) i hi).trans (hst.covered p hp i hi)
  staticFrozen k hk := by
    refine (htu.staticFrozen k ?_).trans (hst.staticFrozen k hk)
    rcases hk with ⟨hk, hbit⟩ | ⟨hk, hbit⟩ | ⟨hk, hbit⟩
    · exact .inl ⟨hk, hst.staticLock _ hbit⟩
    · exact .inr (.inl ⟨hk, hst.staticLock _ hbit⟩)
    · exact .inr (.inr ⟨hk, hst.staticLock _ hbit⟩)
  dynamicFrozen hsupports k hk :=
    (htu.dynamicFrozen ((supports_congr hst.type_eq _).trans hsupports) k
      ⟨hk.1, hst.dynamicLock hsupports _ hk.2⟩).trans (hst.dynamicFrozen hsupports k hk)

lemma of_page_eq (htype : t.data.type = s.data.type) (hpage : t.data.page = s.data.page) :
    s.Preserved t := by
  have hstatic : t.staticLock = s.staticLock := by
    rw [MfUltralightListener.staticLock, hpage, MfUltralightListener.staticLock]
  have hdynamic : t.dynamicLock = s.dynamicLock := by
    rw [MfUltralightListener.dynamicLock, hpage, htype, MfUltralightListener.dynamicLock]
  exact {
    type_eq := htype
    uidPages := fun _ _ => by rw [hpage]
    staticLock := by rw [hstatic]; exact .refl _
    capabilityContainer := by rw [hpage]; exact .refl _
    dynamicLock := fun _ => by rw [hdynamic]; exact .refl _
    covered := fun _ _ _ _ => by rw [MfUltralightData.pageBytes, hpage, MfUltralightData.pageBytes]
    staticFrozen := fun _ _ => by rw [hstatic]
    dynamicFrozen := fun _ _ _ => by rw [hdynamic] }

end Preserved

end MfUltralightListener

/-! ### Pages of the memory -/

/-- The bit of the dynamic locks that covers a page of the memory. -/
def mfUltralightDynamicLockBit : MfUltralightType → Nat → Nat
  | .ntagI2CPlus2K, p => if p < 234 then (p - 16) / 32 else if p < 236 then 6 else (p + 4) / 32
  | type, p => (p - 16) / mfUltralightDynamicLockGranularity type

/-- The last page of the memory that the dynamic locks cover. -/
def mfUltralightLastLockedPage : MfUltralightType → Nat
  | .ul21 => 35
  | .ntag213 => 39
  | .ntag215 => 129
  | .ntagI2C2K => 479
  | .ntagI2CPlus2K => 491
  | _ => 225

lemma mfUltralightI2CValidatePages_sector {page : Nat} {type : MfUltralightType} {sector : Nat}
    (h : mfUltralightI2CValidatePages page page type sector = true) :
    sector = 0 ∨ sector = 1 ∨ sector = 3 := by
  unfold mfUltralightI2CValidatePages at h
  split at h
  · exact .inl rfl
  · exact .inr (.inl rfl)
  · exact .inr (.inr rfl)
  · exact absurd h nofun

lemma mfUltralightGetUpperPageBound_eq {type : MfUltralightType}
    (hsupports : mfUltralightSupportFeature (mfUltralightGetFeatureSupportSet type) .dynamicLock = true) :
    mfUltralightGetUpperPageBound type =
      if type = .ntagI2CPlus2K then 511 else mfUltralightLastLockedPage type := by
  cases type <;> first | exact absurd hsupports (by decide) | rfl

/-- An address that the dynamic locks are checked for is one of a page that they cover, and the
check looks at its bit. -/
lemma mfUltralightPageAt_linear {type : MfUltralightType} {sector page p : Nat}
    (hsupports : mfUltralightSupportFeature (mfUltralightGetFeatureSupportSet type) .dynamicLock = true)
    (hpage : page < 256) (hat : mfUltralightPageAt type sector page = some p)
    (hlo : 16 ≤ (page + sector * 256) % 65536)
    (hhi : (page + sector * 256) % 65536 ≤ mfUltralightGetUpperPageBound type) :
    16 ≤ p ∧ p ≤ mfUltralightLastLockedPage type ∧
      ((page + sector * 256) % 65536 - 16) / mfUltralightDynamicLockGranularity type % 256 =
        mfUltralightDynamicLockBit type p := by
  rw [mfUltralightGetUpperPageBound_eq hsupports] at hhi
  unfold mfUltralightPageAt at hat
  split_ifs at hat with hi2c hvalid hsector
  · obtain rfl := Option.some.inj hat
    clear hat
    rcases mfUltralightI2CValidatePages_sector hvalid with rfl | rfl | rfl
    · rw [Nat.zero_mul, Nat.add_zero, Nat.mod_eq_of_lt (Nat.lt_trans hpage (by decide))] at hlo hhi ⊢
      cases type
      case ntagI2C1K | ntagI2C2K | ntagI2CPlus1K | ntagI2CPlus2K =>
        simp only [mfUltralightI2CValidatePages, mfUltralightI2CPageValidatorForSector0,
          mfUltralightI2CProvidePageByRequested, mfUltralightI2CPageProviderForSector0,
          mfUltralightLastLockedPage, mfUltralightDynamicLockBit, reduceCtorEq, if_false, if_true,
          mfUltralightDynamicLockGranularity, Bool.or_eq_true, Bool.and_eq_true, decide_eq_true_eq]
          at hvalid hhi ⊢
        grind
      all_goals exact absurd hi2c Bool.false_ne_true
    · cases type
      case ntagI2C2K | ntagI2CPlus2K =>
        simp only [mfUltralightI2CValidatePages, mfUltralightI2CPageValidatorForSector1,
          mfUltralightI2CProvidePageByRequested, mfUltralightI2CPageProviderForSector1,
          mfUltralightLastLockedPage, mfUltralightDynamicLockBit, reduceCtorEq, if_false, if_true,
          mfUltralightDynamicLockGranularity, Bool.or_eq_true, Bool.and_eq_true, decide_eq_true_eq]
          at hvalid hhi ⊢
        grind
      case ntagI2C1K | ntagI2CPlus1K => exact absurd hvalid Bool.false_ne_true
      all_goals exact absurd hi2c Bool.false_ne_true
    · have hbound : mfUltralightLastLockedPage type ≤ 511 := by
        cases type <;> decide
      simp only [mfUltralightI2CValidatePages, mfUltralightI2CPageValidatorForSector3,
        Bool.and_eq_true, decide_eq_true_eq] at hvalid
      split_ifs at hhi <;> omega
  · obtain rfl := Option.some.inj hat
    subst hsector
    rw [Nat.zero_mul, Nat.add_zero, Nat.mod_eq_of_lt (Nat.lt_trans hpage (by decide))] at hlo hhi ⊢
    cases type
    case ul21 | ntag213 | ntag215 | ntag216 =>
      simp only [mfUltralightLastLockedPage, mfUltralightDynamicLockBit, reduceCtorEq, if_false,
        mfUltralightDynamicLockGranularity] at hhi ⊢
      omega
    case ntagI2C1K | ntagI2C2K | ntagI2CPlus1K | ntagI2CPlus2K => exact absurd rfl hi2c
    all_goals exact absurd hsupports (by decide)

/-- An address of sector 0 is checked for the page it reaches. -/
lemma mfUltralightPageAt_sector0 {type : MfUltralightType} {page p : Nat}
    (hsupports : mfUltralightSupportFeature (mfUltralightGetFeatureSupportSet type)
      .dynamicLock = true)
    (hpage : page < 256) (hat : mfUltralightPageAt type 0 page = some p) (hlo : 16 ≤ p)
    (hhi : p ≤ mfUltralightLastLockedPage type) :
    16 ≤ page ∧ page ≤ mfUltralightGetUpperPageBound type ∧
      (page - 16) / mfUltralightDynamicLockGranularity type % 256 =
        mfUltralightDynamicLockBit type p := by
  rw [mfUltralightGetUpperPageBound_eq hsupports]
  unfold mfUltralightPageAt at hat
  split_ifs at hat with hi2c hvalid
  · obtain rfl := Option.some.inj hat
    clear hat
    cases type
    case ntagI2C1K | ntagI2C2K | ntagI2CPlus1K | ntagI2CPlus2K =>
      simp only [mfUltralightI2CValidatePages, mfUltralightI2CPageValidatorForSector0,
        mfUltralightI2CProvidePageByRequested, mfUltralightI2CPageProviderForSector0,
        mfUltralightLastLockedPage, mfUltralightDynamicLockBit, reduceCtorEq, if_false, if_true,
        mfUltralightDynamicLockGranularity, Bool.or_eq_true, Bool.and_eq_true, decide_eq_true_eq]
        at hvalid hlo hhi ⊢
      grind
    all_goals exact absurd hi2c nofun
  · obtain rfl := Option.some.inj hat
    cases type
    case ul21 | ntag213 | ntag215 | ntag216 =>
      simp only [mfUltralightLastLockedPage, mfUltralightDynamicLockBit, reduceCtorEq, if_false,
        mfUltralightDynamicLockGranularity] at hhi ⊢
      omega
    case ntagI2C1K | ntagI2C2K | ntagI2CPlus1K | ntagI2CPlus2K => exact absurd rfl hi2c
    all_goals exact absurd hsupports (by decide)

lemma mfUltralightDynamicLockPageNum_bounds {type : MfUltralightType}
    (hsupports : mfUltralightSupportFeature (mfUltralightGetFeatureSupportSet type)
      .dynamicLock = true) :
    16 ≤ mfUltralightDynamicLockPageNum type ∧
      (type = .ntagI2CPlus2K ∧ mfUltralightDynamicLockPageNum type = 226 ∨
        mfUltralightLastLockedPage type < mfUltralightDynamicLockPageNum type) := by
  cases type
  case ul21 | ntag213 | ntag215 | ntag216 | ntagI2C1K | ntagI2C2K | ntagI2CPlus1K =>
    exact ⟨by decide, .inr (by decide)⟩
  case ntagI2CPlus2K => exact ⟨by decide, .inl ⟨rfl, rfl⟩⟩
  all_goals exact absurd hsupports (by decide)

/-- An address of sector 0 behind the special pages reaches a page behind them, and the first
pages and the page of the dynamic locks only under their own numbers. -/
lemma mfUltralightPageAt_special {type : MfUltralightType} {page p : Nat} (hpage : page < 256)
    (hlo : 4 ≤ page) (hat : mfUltralightPageAt type 0 page = some p) :
    4 ≤ p ∧ (p ≤ 15 → page = p) ∧ (mfUltralightSupportFeature (mfUltralightGetFeatureSupportSet type)
      .dynamicLock = true → p = mfUltralightDynamicLockPageNum type → page = p) := by
  unfold mfUltralightPageAt at hat
  split_ifs at hat with hi2c hvalid
  · obtain rfl := Option.some.inj hat
    clear hat
    cases type
    case ntagI2C1K | ntagI2C2K =>
      simp only [mfUltralightI2CProvidePageByRequested, mfUltralightI2CPageProviderForSector0]
      grind
    case ntagI2CPlus1K | ntagI2CPlus2K =>
      have hnum : mfUltralightDynamicLockPageNum .ntagI2CPlus1K = 226 := rfl
      have hnum' : mfUltralightDynamicLockPageNum .ntagI2CPlus2K = 226 := rfl
      simp only [mfUltralightI2CProvidePageByRequested, mfUltralightI2CPageProviderForSector0, hnum,
        hnum']
      grind
    all_goals exact absurd hi2c nofun
  · obtain rfl := Option.some.inj hat
    exact ⟨hlo, fun _ => rfl, fun _ _ => rfl⟩

namespace MfUltralightListener

lemma Covered.cases {p : Nat} (h : s.Covered p) :
    (3 ≤ p ∧ p ≤ 15 ∧ s.staticLock.getLsbD p = true) ∨
      (s.supports .dynamicLock = true ∧ 16 ≤ p ∧ p ≤ mfUltralightLastLockedPage s.data.type ∧
        (s.dynamicLock.setWidth 16).getLsbD (mfUltralightDynamicLockBit s.data.type p) = true) := by
  rcases h with hstatic | ⟨sector, page, hpage, hat, hcheck⟩
  · left
    unfold mfUltralightStaticLockCheckPage at hstatic
    split_ifs at hstatic with hrange
    exact ⟨hrange.1, hrange.2, hstatic⟩
  · right
    unfold mfUltralightDynamicLockCheckPage at hcheck
    split_ifs at hcheck with hrange
    obtain ⟨hsupports, hlo, hhi⟩ := hrange
    obtain ⟨hp, hp', hbit⟩ := mfUltralightPageAt_linear hsupports hpage hat hlo hhi
    refine ⟨hsupports, hp, hp', ?_⟩
    rw [← hbit]
    exact hcheck

lemma not_covered_of_sector0 (hsector : s.sector = 0) {page p : Nat} (hpage : page < 256)
    (hat : mfUltralightPageAt s.data.type 0 page = some p) (hlo : 4 ≤ page)
    (hstatic : mfUltralightStaticLockCheckPage s.staticLock page = false)
    (hdynamic : mfUltralightDynamicLockCheckPage s page = false) : ¬s.Covered p := by
  intro hcovered
  rcases hcovered.cases with ⟨-, hp, hbit⟩ | ⟨hsupports, hp, hp', hbit⟩
  · obtain rfl := (mfUltralightPageAt_special hpage hlo hat).2.1 hp
    unfold mfUltralightStaticLockCheckPage at hstatic
    rw [if_pos ⟨Nat.le_of_succ_le hlo, hp⟩, hbit] at hstatic
    exact absurd hstatic nofun
  · obtain ⟨hlo', hhi, hsame⟩ := mfUltralightPageAt_sector0 hsupports hpage hat hp hp'
    have hlinear : s.linearPage page = page := by
      rw [linearPage, hsector, Nat.zero_mul, Nat.add_zero,
        Nat.mod_eq_of_lt (Nat.lt_trans hpage (by decide))]
    unfold mfUltralightDynamicLockCheckPage at hdynamic
    rw [hlinear, if_pos ⟨hsupports, hlo', hhi⟩] at hdynamic
    simp only [hsame, hbit] at hdynamic
    exact absurd hdynamic nofun

lemma not_covered_lockPage {page : Nat} (hsupports : s.supports .dynamicLock = true)
    (hlinear : s.linearPage page = mfUltralightDynamicLockPageNum s.data.type)
    (hdynamic : mfUltralightDynamicLockCheckPage s page = false) :
    ¬s.Covered (mfUltralightDynamicLockPageNum s.data.type) := by
  intro hcovered
  obtain ⟨hlo, hnum⟩ := mfUltralightDynamicLockPageNum_bounds hsupports
  rcases hcovered.cases with ⟨-, hp, -⟩ | ⟨-, -, hp', hbit⟩
  · exact absurd hp (Nat.not_le.mpr hlo)
  · rcases hnum with ⟨htype, hnum⟩ | hlt
    · unfold mfUltralightDynamicLockCheckPage at hdynamic
      have hbound : mfUltralightGetUpperPageBound s.data.type = 511 := by rw [htype]; rfl
      rw [if_pos ⟨hsupports, hlinear ▸ hlo, by rw [hlinear, hnum, hbound]; decide⟩] at hdynamic
      have hsame : (s.linearPage page - 16) / mfUltralightDynamicLockGranularity s.data.type % 256 =
          mfUltralightDynamicLockBit s.data.type
            (mfUltralightDynamicLockPageNum s.data.type) := by
        rw [hlinear, hnum, htype]
        rfl
      simp only [hsame, hbit] at hdynamic
      exact absurd hdynamic nofun
    · exact absurd hp' (Nat.not_le.mpr hlt)

end MfUltralightListener

/-! ### Lock words -/

lemma getLsbD_mfUltralightBitsClrIf {w k : Nat} {active : Bool} {newBits mask : BitVec w} :
    (mfUltralightBitsClrIf active newBits mask).getLsbD k =
      (newBits.getLsbD k && !(active && mask.getLsbD k)) := by
  cases active with
  | false => simp [mfUltralightBitsClrIf]
  | true =>
    rcases Nat.lt_or_ge k w with hk | hk
    · simp [mfUltralightBitsClrIf, hk]
    · simp [mfUltralightBitsClrIf, BitVec.getLsbD_of_ge _ _ hk]

lemma mfUltralightStaticLock94Mask_bit :
    ∀ k < 10, 4 ≤ k → mfUltralightStaticLock94Mask.getLsbD k = true := by
  decide

lemma mfUltralightStaticLock1510Mask_bit :
    ∀ k < 16, 10 ≤ k → mfUltralightStaticLock1510Mask.getLsbD k = true := by
  decide

lemma mfUltralightStaticLockBytesWrite_frozen {currentLocks newBits : BitVec 16} {k : Nat}
    (h : k = 3 ∧ currentLocks.getLsbD 0 = true ∨ (4 ≤ k ∧ k ≤ 9) ∧ currentLocks.getLsbD 1 = true ∨
      (10 ≤ k ∧ k ≤ 15) ∧ currentLocks.getLsbD 2 = true) :
    (mfUltralightStaticLockBytesWrite currentLocks newBits).getLsbD k = currentLocks.getLsbD k := by
  unfold mfUltralightStaticLockBytesWrite
  rw [BitVec.getLsbD_or, getLsbD_mfUltralightBitsClrIf, getLsbD_mfUltralightBitsClrIf,
    getLsbD_mfUltralightBitsClrIf]
  rcases h with ⟨rfl, hbit⟩ | ⟨hk, hbit⟩ | ⟨hk, hbit⟩
  · have hmask : mfUltralightStaticLockOtpCcMask.getLsbD 3 = true := by decide
    simp [hbit, hmask]
  · have hmask := mfUltralightStaticLock94Mask_bit k (Nat.lt_succ_of_le hk.2) hk.1
    simp [hbit, hmask]
  · have hmask := mfUltralightStaticLock1510Mask_bit k (Nat.lt_succ_of_le hk.2) hk.1
    simp [hbit, hmask]

/-- The rounds from `i` on only clear bits, among them those that their block-locking bits
freeze. -/
lemma getLsbD_mfUltralightDynamicLockBytesClear {currentLock newBits : BitVec 32} {n i k : Nat}
    (h : (mfUltralightDynamicLockBytesClear currentLock n i newBits).getLsbD k = true) :
    newBits.getLsbD k = true ∧
      (i ≤ k / 2 → k / 2 < i + n → currentLock.getLsbD (k / 2 + 16) = false) := by
  induction n generalizing i newBits with
  | zero => exact ⟨h, fun hlo hhi => absurd hhi (Nat.not_lt.mpr hlo)⟩
  | succ n ih =>
    obtain ⟨hnew, hrest⟩ := ih h
    rw [getLsbD_mfUltralightBitsClrIf, Bool.and_eq_true] at hnew
    refine ⟨hnew.1, fun hlo hhi => ?_⟩
    rcases Nat.lt_or_eq_of_le hlo with hlt | rfl
    · exact hrest hlt (by omega)
    · have hk : k < 32 := by
        by_contra hge
        rw [BitVec.getLsbD_of_ge _ _ (Nat.not_lt.mp hge)] at hnew
        exact absurd hnew.1 nofun
      have hmask : (1#32 <<< (k / 2 * 2) ||| 1#32 <<< (k / 2 * 2 + 1)).getLsbD k = true := by
        have hparity : k = k / 2 * 2 ∨ k = k / 2 * 2 + 1 := by omega
        rw [BitVec.getLsbD_or, BitVec.getLsbD_shiftLeft, BitVec.getLsbD_shiftLeft]
        rcases hparity with heq | heq
        · simp [hk, ← heq]
        · simp [hk, ← heq]
      rw [hmask, Bool.and_true, Bool.not_eq_true'] at hnew
      exact hnew.2

lemma mfUltralightDynamicLockBytesWrite_frozen {currentLock newBits : BitVec 32} {k : Nat}
    (hk : k < 16) (hbit : currentLock.getLsbD (k / 2 + 16) = true) :
    (mfUltralightDynamicLockBytesWrite currentLock newBits).getLsbD k = currentLock.getLsbD k := by
  rw [mfUltralightDynamicLockBytesWrite, BitVec.getLsbD_or]
  cases hclear : (mfUltralightDynamicLockBytesClear currentLock 8 0
      (newBits &&& 0x00FFFFFF)).getLsbD k with
  | false => rw [Bool.or_false]
  | true =>
    have hnot := (getLsbD_mfUltralightDynamicLockBytesClear hclear).2 (Nat.zero_le _) (by omega)
    exact absurd (hbit.symm.trans hnot) nofun

/-! ### Writes -/

namespace MfUltralightListener

/-- A write to one page that is not covered keeps what is to be kept, when it does so for the
lock words and the capability container on that page. -/
lemma Preserved.of_write {mem : Memory} {p : Nat} (hother : ∀ i, i < 4 * p ∨ 4 * p + 4 ≤ i →
      mem i = s.data.page i) (hp : 2 ≤ p) (hcovered : ¬s.Covered p)
    (hstatic : p = 2 → (∀ k, s.staticLock.getLsbD k = true →
        (s.withPage mem).staticLock.getLsbD k = true) ∧
      ∀ k, s.StaticFrozen k → (s.withPage mem).staticLock.getLsbD k = s.staticLock.getLsbD k)
    (hcontainer : p = 3 → Grows (Memory.load 32 s.data.page (4 * 3)) (Memory.load 32 mem (4 * 3)))
    (hdynamic : s.supports .dynamicLock = true →
      p = mfUltralightDynamicLockPageNum s.data.type →
        Grows s.dynamicLock (s.withPage mem).dynamicLock ∧ ∀ k, s.DynamicFrozen k →
          (s.withPage mem).dynamicLock.getLsbD k = s.dynamicLock.getLsbD k) :
    s.Preserved (s.withPage mem) := by
  have hstatic' : p ≠ 2 → (s.withPage mem).staticLock = s.staticLock := by
    intro hne
    apply Memory.load_congr
    intro i hi
    apply hother
    omega
  have hdynamic' : p ≠ mfUltralightDynamicLockPageNum s.data.type →
      (s.withPage mem).dynamicLock = s.dynamicLock := by
    intro hne
    refine Memory.load_congr (a := 4 * mfUltralightDynamicLockPageNum s.data.type) fun i hi => ?_
    apply hother
    omega
  constructor
  · rfl
  · intro i hi
    apply hother
    omega
  · by_cases h2 : p = 2
    · exact (hstatic h2).1
    · rw [hstatic' h2]
      exact .refl _
  · by_cases h3 : p = 3
    · exact hcontainer h3
    · have hsame : Memory.load 32 mem (4 * 3) = Memory.load 32 s.data.page (4 * 3) := by
        apply Memory.load_congr
        intro i hi
        apply hother
        omega
      exact hsame ▸ .refl _
  · intro hsupports
    by_cases hlock : p = mfUltralightDynamicLockPageNum s.data.type
    · exact (hdynamic hsupports hlock).1
    · rw [hdynamic' hlock]
      exact .refl _
  · intro q hq i hi
    have hne : q ≠ p := fun heq => hcovered (heq ▸ hq)
    apply hother
    omega
  · intro k hk
    by_cases h2 : p = 2
    · exact (hstatic h2).2 k hk
    · rw [hstatic' h2]
  · intro hsupports k hk
    by_cases hlock : p = mfUltralightDynamicLockPageNum s.data.type
    · exact (hdynamic hsupports hlock).2 k hk
    · rw [hdynamic' hlock]

/-- A write of the page that the checks of an address take for an ordinary unlocked one, while
it is protected in the memory. -/
def Misdirected (s : MfUltralightListener) (page : Nat) : Prop :=
  s.sector ≠ 0 ∧ mfUltralightIsPageDynamicLock s page = false ∧
    mfUltralightDynamicLockCheckPage s page = false ∧
    (s.memoryPage page (mfUltralightIsI2CTag s.data.type) < 4 ∨
      (s.supports .dynamicLock = true ∧ s.memoryPage page (mfUltralightIsI2CTag s.data.type) =
        mfUltralightDynamicLockPageNum s.data.type) ∨
      s.Covered (s.memoryPage page (mfUltralightIsI2CTag s.data.type)))

/-- What the handlers have checked before a write. -/
structure Writable (s : MfUltralightListener) (page : Nat) : Prop where
  page_lt : page < 256
  valid : mfUltralightIsI2CTag s.data.type = true →
    mfUltralightI2CValidatePages page page s.data.type s.sector = true
  staticLock : mfUltralightStaticLockCheckPage s.staticLock page = false
  dynamicLock : mfUltralightDynamicLockCheckPage s page = false

lemma Writable.pageAt {page : Nat} (h : s.Writable page) (hsector : s.sector = 0) :
    mfUltralightPageAt s.data.type 0 page =
      some (s.memoryPage page (mfUltralightIsI2CTag s.data.type)) := by
  have hvalid := h.valid
  rw [hsector] at hvalid
  unfold mfUltralightPageAt memoryPage
  rw [hsector]
  cases hi2c : mfUltralightIsI2CTag s.data.type with
  | false => simp
  | true =>
    rw [if_pos rfl, if_pos (hvalid hi2c), if_pos rfl]

lemma Preserved.performWrite {page : Nat} (h : s.Writable page) (hguard : ¬s.Misdirected page)
    (rxData : Memory) :
    s.Preserved (mfUltralightListenerPerformWrite s rxData page
      (mfUltralightIsI2CTag s.data.type)).2 := by
  unfold mfUltralightListenerPerformWrite
  split_ifs with huid hstatic hcontainer hlock
  · exact .refl s
  · -- the static lock bytes
    obtain ⟨rfl, hsector⟩ := hstatic
    have hload : ∀ x : BitVec 16,
        (s.withPage (s.data.page.store (4 * 2 + 2) x)).staticLock = x := fun x =>
      Memory.load_store (by decide) _ _ _
    refine .of_write (p := 2) (fun i hi => ?_) (Nat.le_refl 2) ?_ (fun _ => ?_)
      (fun h3 => absurd h3 (by decide)) (fun hsupports h2 => ?_)
    · rcases hi with hi | hi
      · exact Memory.store_of_lt (Nat.lt_of_lt_of_le hi (Nat.le_add_right _ _)) _
      · exact Memory.store_of_ge hi _
    · intro hcovered
      rcases hcovered.cases with ⟨hp, -⟩ | ⟨-, hp, -⟩
      · exact absurd hp (by decide)
      · exact absurd hp (by decide)
    · rw [hload]
      exact ⟨Grows.or _ _, fun k hk => mfUltralightStaticLockBytesWrite_frozen hk⟩
    · have hlo := (mfUltralightDynamicLockPageNum_bounds hsupports).1
      rw [← h2] at hlo
      exact absurd hlo (by decide)
  · -- the capability container
    obtain ⟨rfl, hsector⟩ := hcontainer
    refine .of_write (p := 3) (fun i hi => ?_) (by decide) ?_ (fun h2 => absurd h2 (by decide))
      (fun _ => ?_) (fun hsupports h3 => ?_)
    · exact if_neg (by omega)
    · intro hcovered
      rcases hcovered.cases with ⟨-, -, hbit⟩ | ⟨-, hp, -⟩
      · have hcheck := h.staticLock
        rw [mfUltralightStaticLockCheckPage, if_pos (by decide), hbit] at hcheck
        exact absurd hcheck nofun
      · exact absurd hp (by decide)
    · intro k hk
      have hk32 : k < 8 * (32 / 8) := by
        by_contra hge
        rw [BitVec.getLsbD_of_ge _ _ (Nat.not_lt.mp hge)] at hk
        exact absurd hk nofun
      rw [Memory.getLsbD_load hk32] at hk ⊢
      rw [mfUltralightCapabilityContainerWrite, if_pos (by omega), BitVec.getLsbD_or, hk,
        Bool.true_or]
    · have hlo := (mfUltralightDynamicLockPageNum_bounds hsupports).1
      rw [← h3] at hlo
      exact absurd hlo (by decide)
  · -- the dynamic lock bytes
    rw [mfUltralightIsPageDynamicLock, Bool.and_eq_true, beq_iff_eq] at hlock
    obtain ⟨hsupports, hlinear⟩ := hlock
    have hlo := (mfUltralightDynamicLockPageNum_bounds hsupports).1
    have hload : ∀ x : BitVec 32, (s.withPage (s.data.page.store
        (4 * mfUltralightDynamicLockPageNum s.data.type) x)).dynamicLock = x := fun x =>
      Memory.load_store (by decide) _ _ _
    refine .of_write (fun i hi => ?_) (by omega) (not_covered_lockPage hsupports hlinear
      h.dynamicLock) (fun h2 => ?_) (fun h3 => ?_) (fun _ _ => ?_)
    · rcases hi with hi | hi
      · exact Memory.store_of_lt hi _
      · exact Memory.store_of_ge hi _
    · rw [h2] at hlo
      exact absurd hlo (by decide)
    · rw [h3] at hlo
      exact absurd hlo (by decide)
    · rw [hload]
      exact ⟨Grows.or _ _, fun k hk => mfUltralightDynamicLockBytesWrite_frozen hk.1 hk.2⟩
  · -- an ordinary page
    obtain ⟨p, hp⟩ : ∃ p, p = s.memoryPage page (mfUltralightIsI2CTag s.data.type) := ⟨_, rfl⟩
    have hfree : 4 ≤ p ∧ (s.supports .dynamicLock = true →
        p ≠ mfUltralightDynamicLockPageNum s.data.type) ∧ ¬s.Covered p := by
      by_cases hsector : s.sector = 0
      · have hat := h.pageAt hsector
        rw [← hp] at hat
        have hlo : 4 ≤ page := by omega
        obtain ⟨hp4, -, hspecial⟩ := mfUltralightPageAt_special h.page_lt hlo hat
        refine ⟨hp4, fun hsupports heq => hlock ?_,
          not_covered_of_sector0 hsector h.page_lt hat hlo h.staticLock h.dynamicLock⟩
        rw [mfUltralightIsPageDynamicLock, hsupports, Bool.true_and, beq_iff_eq, linearPage,
          hsector, Nat.zero_mul, Nat.add_zero,
          Nat.mod_eq_of_lt (Nat.lt_trans h.page_lt (by decide)), hspecial hsupports heq]
        exact heq
      · rw [Misdirected, ← hp] at hguard
        have hrest := fun hbad =>
          hguard ⟨hsector, Bool.eq_false_iff.mpr hlock, h.dynamicLock, hbad⟩
        exact ⟨Nat.not_lt.mp fun hlt => hrest (.inl hlt),
          fun hsupports heq => hrest (.inr (.inl ⟨hsupports, heq⟩)),
          fun hcovered => hrest (.inr (.inr hcovered))⟩
    rw [← hp]
    obtain ⟨hp4, hnotLock, hnotCovered⟩ := hfree
    refine .of_write (fun i hi => ?_) (by omega) hnotCovered (fun h2 => ?_) (fun h3 => ?_)
      (fun hsupports heq => absurd heq (hnotLock hsupports))
    · rcases hi with hi | hi
      · exact Memory.copy_of_lt hi
      · exact Memory.copy_of_ge hi
    · omega
    · omega

end MfUltralightListener

end FlipperZero
