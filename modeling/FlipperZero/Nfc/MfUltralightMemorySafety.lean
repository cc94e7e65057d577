import FlipperZero.Nfc.MfUltralightLocks

/-!
# Runs of the MIFARE Ultralight listener

Every handler but two leaves the pages as they are. The second frame of a compatible write relies
on the checks of the first one, which is the invariant of the runs. From one step, the memory of
the tag is safe along every run without misdirected writes; a sector that is selected on a tag
without sectors breaks it.
-/

namespace FlipperZero

open Foundation

variable {s t u : MfUltralightListener}

/-! ### Handlers that do not write -/

/-- The pages and the composite command are as before. -/
structure MfUltralightListener.Quiet (s t : MfUltralightListener) : Prop where
  type_eq : t.data.type = s.data.type
  page_eq : t.data.page = s.data.page
  composite_eq : t.compositeCallback = s.compositeCallback
  compositeData_eq : t.compositeData = s.compositeData
  sector_eq : t.sector = s.sector
  pagesTotal_eq : t.data.pagesTotal = s.data.pagesTotal

namespace MfUltralightListener.Quiet

protected lemma refl (s : MfUltralightListener) : s.Quiet s := ⟨rfl, rfl, rfl, rfl, rfl, rfl⟩

protected lemma trans (hst : s.Quiet t) (htu : t.Quiet u) : s.Quiet u :=
  ⟨htu.type_eq.trans hst.type_eq, htu.page_eq.trans hst.page_eq,
    htu.composite_eq.trans hst.composite_eq, htu.compositeData_eq.trans hst.compositeData_eq,
    htu.sector_eq.trans hst.sector_eq, htu.pagesTotal_eq.trans hst.pagesTotal_eq⟩

lemma preserved (h : s.Quiet t) : s.Preserved t := .of_page_eq h.type_eq h.page_eq

end MfUltralightListener.Quiet

lemma mfUltralightMirrorReadPrepare_quiet {startPage : Nat}
    (h : mfUltralightMirrorReadPrepare startPage s = .ok t) : s.Quiet t := by
  have henabled : ∀ enabled u, mfUltralightMirrorEnabled s = .ok (enabled, u) → s.Quiet u := by
    intro enabled u hu
    unfold mfUltralightMirrorEnabled at hu
    split at hu
    · split at hu
      · cases hu
      · cases hu
        exact ⟨rfl, rfl, rfl, rfl, rfl, rfl⟩
    · cases hu
      exact ⟨rfl, rfl, rfl, rfl, rfl, rfl⟩
  unfold mfUltralightMirrorReadPrepare at h
  split at h
  · cases h
  · cases h
    exact henabled _ _ ‹_›
  · rename_i heq
    cases h
    exact (henabled _ _ heq).trans ⟨rfl, rfl, rfl, rfl, rfl, rfl⟩

lemma mfUltralightMirrorReadHandler_quiet (page : Nat) (dest : Memory) (s : MfUltralightListener) :
    s.Quiet (mfUltralightMirrorReadHandler page dest s).2 := by
  unfold mfUltralightMirrorReadHandler
  split
  · exact ⟨rfl, rfl, rfl, rfl, rfl, rfl⟩
  · exact .refl s

lemma mfUltralightListenerReadPages_quiet (startPage : Nat) (check : Bool) (n i rollover : Nat)
    (s : MfUltralightListener) :
    s.Quiet (mfUltralightListenerReadPages startPage check n i rollover s).2 := by
  induction n generalizing i rollover s with
  | zero => exact .refl s
  | succ n ih =>
    unfold mfUltralightListenerReadPages
    dsimp only
    split_ifs
    all_goals first
      | exact ih _ _ s
      | exact (mfUltralightMirrorReadHandler_quiet _ _ s).trans (ih _ _ _)

lemma mfUltralightSingleCounterTryIncrease_quiet (s : MfUltralightListener) :
    s.Quiet (mfUltralightSingleCounterTryIncrease s) := by
  unfold mfUltralightSingleCounterTryIncrease
  split
  · dsimp only
    split
    · exact ⟨rfl, rfl, rfl, rfl, rfl, rfl⟩
    · exact ⟨rfl, rfl, rfl, rfl, rfl, rfl⟩
  · exact .refl s

lemma mfUltralightListenerPerformRead_quiet {startPage pageCnt : Nat} {check : Bool}
    {pages : List (BitVec 8)}
    (h : mfUltralightListenerPerformRead s startPage pageCnt check = .ok (pages, t)) :
    s.Quiet t := by
  unfold mfUltralightListenerPerformRead at h
  split at h
  · cases h
  · cases h
    exact ((mfUltralightMirrorReadPrepare_quiet ‹_›).trans
      (mfUltralightListenerReadPages_quiet _ _ _ _ _ _)).trans
        (mfUltralightSingleCounterTryIncrease_quiet _)

lemma mfUltralightAuthLimitCheckAndUpdate_quiet (s : MfUltralightListener) (authSuccess : Bool) :
    s.Quiet (mfUltralightAuthLimitCheckAndUpdate s authSuccess).2 := by
  unfold mfUltralightAuthLimitCheckAndUpdate
  split
  · exact .refl s
  · split
    · exact .refl s
    · exact ⟨rfl, rfl, rfl, rfl, rfl, rfl⟩

/-- A handler that finds its command and returns ends in a state with the property. -/
def MfUltralightHandled.Meets (r : MfUltralightHandled) (Q : MfUltralightListener → Prop) : Prop :=
  ∀ command t, r = .ok (command, t) → command ≠ .notFound ∧ Q t

lemma MfUltralightHandled.Meets.ok {command : MfUltralightCommand} {Q : MfUltralightListener → Prop}
    (hcommand : command ≠ .notFound) (ht : Q t) :
    MfUltralightHandled.Meets (.ok (command, t)) Q := by
  rintro _ _ ⟨⟩
  exact ⟨hcommand, ht⟩

lemma MfUltralightHandled.Meets.pair {r : MfUltralightCommand × MfUltralightListener}
    {Q : MfUltralightListener → Prop} (hcommand : r.1 ≠ .notFound) (ht : Q r.2) :
    MfUltralightHandled.Meets (.ok r) Q :=
  .ok hcommand ht

lemma MfUltralightHandled.Meets.error {fault : MfUltralightFault}
    {Q : MfUltralightListener → Prop} : MfUltralightHandled.Meets (.error fault) Q := by
  rintro _ _ ⟨⟩

variable {buffer : BitBuffer} {des3 : Des3} {random : List (BitVec 8)}

open MfUltralightHandled.Meets

lemma mfUltralightListenerPerformRead_meets {startPage pageCnt : Nat} {check : Bool} :
    MfUltralightHandled.Meets
      (match mfUltralightListenerPerformRead s startPage pageCnt check with
        | .error fault => .error fault
        | .ok (pages, s) => .ok (.processed, s.send (.standardFrame pages))) s.Quiet := by
  split
  · exact error
  · rename_i heq
    have hquiet := mfUltralightListenerPerformRead_quiet heq
    exact ok nofun ⟨hquiet.1, hquiet.2, hquiet.3, hquiet.4, hquiet.5, hquiet.6⟩

lemma mfUltralightListenerReadPageHandler_quiet :
    (mfUltralightListenerReadPageHandler s buffer).Meets s.Quiet := by
  unfold mfUltralightListenerReadPageHandler
  dsimp only
  split_ifs
  all_goals first
    | exact ok nofun (.refl s)
    | exact mfUltralightListenerPerformRead_meets

lemma mfUltralightListenerFastReadHandler_quiet :
    (mfUltralightListenerFastReadHandler s buffer).Meets s.Quiet := by
  unfold mfUltralightListenerFastReadHandler
  dsimp only
  split_ifs
  all_goals first
    | exact ok nofun (.refl s)
    | exact error
    | exact mfUltralightListenerPerformRead_meets

lemma mfUltralightListenerFastWriteHandler_quiet :
    (mfUltralightListenerFastWriteHandler s buffer).Meets s.Quiet := by
  unfold mfUltralightListenerFastWriteHandler
  split_ifs
  all_goals exact ok nofun (.refl s)

lemma mfUltralightListenerReadVersionHandler_quiet :
    (mfUltralightListenerReadVersionHandler s buffer).Meets s.Quiet := by
  unfold mfUltralightListenerReadVersionHandler
  split_ifs
  · exact ok nofun ⟨rfl, rfl, rfl, rfl, rfl, rfl⟩
  · exact ok nofun (.refl s)

lemma mfUltralightListenerReadSignatureHandler_quiet :
    (mfUltralightListenerReadSignatureHandler s buffer).Meets s.Quiet := by
  unfold mfUltralightListenerReadSignatureHandler
  split_ifs
  · exact ok nofun ⟨rfl, rfl, rfl, rfl, rfl, rfl⟩
  · exact ok nofun (.refl s)

lemma mfUltralightListenerReadCounterHandler_quiet :
    (mfUltralightListenerReadCounterHandler s buffer).Meets s.Quiet := by
  unfold mfUltralightListenerReadCounterHandler
  dsimp only
  split_ifs
  · exact ok nofun (.refl s)
  · exact ok nofun (.refl s)
  · exact ok nofun (.refl s)
  · exact ok nofun ⟨rfl, rfl, rfl, rfl, rfl, rfl⟩

lemma mfUltralightListenerCheckTearingHandler_quiet :
    (mfUltralightListenerCheckTearingHandler s buffer).Meets s.Quiet := by
  unfold mfUltralightListenerCheckTearingHandler
  dsimp only
  split_ifs
  · exact ok nofun (.refl s)
  · exact ok nofun (.refl s)
  · exact ok nofun (.refl s)
  · exact ok nofun ⟨rfl, rfl, rfl, rfl, rfl, rfl⟩

lemma mfUltralightListenerVcslHandler_quiet :
    (mfUltralightListenerVcslHandler s buffer).Meets s.Quiet := by
  unfold mfUltralightListenerVcslHandler
  split_ifs
  · exact ok nofun (.refl s)
  · exact ok nofun (.refl s)
  · exact ok nofun ⟨rfl, rfl, rfl, rfl, rfl, rfl⟩

lemma mfUltralightListenerIncreaseCounterHandler_quiet :
    (mfUltralightListenerIncreaseCounterHandler s buffer).Meets s.Quiet := by
  unfold mfUltralightListenerIncreaseCounterHandler
  dsimp only
  split_ifs
  · exact ok nofun (.refl s)
  · exact ok nofun (.refl s)
  · exact ok nofun (.refl s)
  · split
    · exact error
    · split_ifs
      · exact ok nofun (.refl s)
      · exact ok nofun ⟨rfl, rfl, rfl, rfl, rfl, rfl⟩

lemma mfUltralightListenerAuthHandler_quiet :
    (mfUltralightListenerAuthHandler s buffer).Meets s.Quiet := by
  unfold mfUltralightListenerAuthHandler
  dsimp only
  split_ifs
  · exact ok nofun (.refl s)
  · split
    · exact error
    · have hlimited := mfUltralightAuthLimitCheckAndUpdate_quiet s
      split_ifs
      · exact ok nofun (hlimited _)
      · exact ok nofun (hlimited _)
      · exact ok nofun ((hlimited _).trans ⟨rfl, rfl, rfl, rfl, rfl, rfl⟩)

lemma mfUltralightCAuthenticateHandlerP2_quiet :
    (mfUltralightCAuthenticateHandlerP2 des3 s buffer).Meets s.Quiet := by
  unfold mfUltralightCAuthenticateHandlerP2
  dsimp only
  split_ifs
  all_goals first
    | exact ok nofun (.refl s)
    | exact error
    | exact ok nofun ⟨rfl, rfl, rfl, rfl, rfl, rfl⟩

/-! ### Steps -/

namespace MfUltralightListener

/-- The first frame of a compatible write has been checked. -/
def Inv (s : MfUltralightListener) : Prop :=
  s.compositeCallback = some .compWriteP2 →
    mfUltralightIsI2CTag s.data.type = false ∧ s.Writable s.compositeData

/-- What a step keeps, whatever the state was reached by. -/
structure Kept (s t : MfUltralightListener) : Prop where
  preserved : s.Preserved t
  inv : t.Inv

def writtenPage (s : MfUltralightListener) : MfUltralightEvent → Option Nat
  | .receivedStandardFrame buffer _ =>
    match s.compositeCallback with
    | some .compWriteP2 => some s.compositeData
    | some _ => none
    | none =>
      if buffer.getSize = 6 * 8 ∧ buffer.getByte 0 = 0xA2 then some (buffer.getByte 1).toNat
      else none
  | _ => none

def Directed (s : MfUltralightListener) (event : MfUltralightEvent) : Prop :=
  ∀ page, s.writtenPage event = some page → ¬s.Misdirected page

lemma Inv.of_composite (h : t.compositeCallback ≠ some .compWriteP2) : t.Inv :=
  fun hcomposite => absurd hcomposite h

lemma Quiet.inv (h : s.Quiet t) (hs : s.Inv) : t.Inv := by
  intro hcomposite
  rw [h.composite_eq] at hcomposite
  obtain ⟨hi2c, hwritable⟩ := hs hcomposite
  have hstatic : t.staticLock = s.staticLock := by rw [staticLock, h.page_eq, staticLock]
  have hdynamic : t.dynamicLock = s.dynamicLock := by
    rw [dynamicLock, h.page_eq, h.type_eq, dynamicLock]
  refine ⟨h.type_eq ▸ hi2c, ?_⟩
  rw [h.compositeData_eq]
  constructor
  · exact hwritable.page_lt
  · rw [h.type_eq, h.sector_eq]
    exact hwritable.valid
  · rw [hstatic]
    exact hwritable.staticLock
  · rw [← hwritable.dynamicLock]
    unfold mfUltralightDynamicLockCheckPage
    rw [supports_congr h.type_eq, linearPage, linearPage, h.sector_eq, h.type_eq, hdynamic]

lemma Quiet.kept (h : s.Quiet t) (hs : s.Inv) : s.Kept t := ⟨h.preserved, h.inv hs⟩

lemma Kept.quiet (h : s.Kept t) (hquiet : t.Quiet u) : s.Kept u :=
  ⟨h.preserved.trans hquiet.preserved, hquiet.inv h.inv⟩

end MfUltralightListener

open MfUltralightListener

lemma MfUltralightHandled.Meets.mono {r : MfUltralightHandled} {Q R : MfUltralightListener → Prop}
    (h : r.Meets Q) (hQR : ∀ t, Q t → R t) : r.Meets R := by
  intro command t ht
  exact ⟨(h command t ht).1, hQR t (h command t ht).2⟩

lemma performWrite_composite (s : MfUltralightListener) (rxData : Memory) (page : Nat)
    (check : Bool) : (mfUltralightListenerPerformWrite s rxData page check).1 ≠ .notFound ∧
      (mfUltralightListenerPerformWrite s rxData page check).2.compositeCallback =
        s.compositeCallback := by
  unfold mfUltralightListenerPerformWrite
  split_ifs
  all_goals exact ⟨nofun, rfl⟩

lemma mfUltralightListenerWritePageHandler_kept (hnone : s.compositeCallback = none)
    (hguard : ¬s.Misdirected (buffer.getByte 1).toNat) :
    (mfUltralightListenerWritePageHandler s buffer).Meets s.Kept := by
  have hrefl : s.Kept s := (Quiet.refl s).kept (.of_composite (hnone ▸ nofun))
  unfold mfUltralightListenerWritePageHandler
  dsimp only
  by_cases hvalid : (if mfUltralightIsI2CTag s.data.type = true then
      !mfUltralightI2CValidatePages (buffer.getByte 1).toNat (buffer.getByte 1).toNat s.data.type
        s.sector
    else decide (s.data.pagesTotal < (buffer.getByte 1).toNat)) = true
  · rw [if_pos hvalid]
    exact ok nofun hrefl
  rw [if_neg hvalid]
  split_ifs with haccess hstatic hdynamic
  · exact ok nofun hrefl
  · exact ok nofun hrefl
  · exact ok nofun hrefl
  · have hwritable : s.Writable (buffer.getByte 1).toNat := by
      constructor
      · exact (buffer.getByte 1).isLt
      · intro hi2c
        rw [if_pos hi2c, Bool.not_eq_true, Bool.not_eq_false'] at hvalid
        exact hvalid
      · exact Bool.eq_false_iff.mpr hstatic
      · exact Bool.eq_false_iff.mpr hdynamic
    obtain ⟨hfound, hcomposite⟩ := performWrite_composite s (fun i => buffer.data (2 + i))
      (buffer.getByte 1).toNat (mfUltralightIsI2CTag s.data.type)
    exact pair hfound ⟨Preserved.performWrite hwritable hguard _,
      .of_composite (by rw [hcomposite, hnone]; exact nofun)⟩

lemma mfUltralightCompWriteHandlerP2_preserved (hs : s.Inv)
    (hcomposite : s.compositeCallback = some .compWriteP2)
    (hguard : ¬s.Misdirected s.compositeData) :
    (mfUltralightCompWriteHandlerP2 s buffer).Meets s.Preserved := by
  obtain ⟨hi2c, hwritable⟩ := hs hcomposite
  unfold mfUltralightCompWriteHandlerP2
  split_ifs
  · exact ok nofun (.refl s)
  · have hpreserved := Preserved.performWrite hwritable hguard buffer.data
    rw [hi2c] at hpreserved
    exact pair (performWrite_composite s _ _ _).1 hpreserved

lemma mfUltralightIsI2CTag_of_compatibleWrite {type : MfUltralightType}
    (h : mfUltralightSupportFeature (mfUltralightGetFeatureSupportSet type) .compatibleWrite =
      true) : mfUltralightIsI2CTag type = false := by
  cases type <;> first | rfl | exact absurd h (by decide)

lemma mfUltralightCompWriteHandlerP1_kept (hnone : s.compositeCallback = none) :
    (mfUltralightCompWriteHandlerP1 s buffer).Meets s.Kept := by
  have hrefl : s.Kept s := (Quiet.refl s).kept (.of_composite (hnone ▸ nofun))
  unfold mfUltralightCompWriteHandlerP1
  dsimp only
  split_ifs with hsupports hrange haccess hlocks
  · exact ok nofun hrefl
  · exact ok nofun hrefl
  · exact ok nofun hrefl
  · exact ok nofun hrefl
  · rw [Bool.not_eq_true, Bool.not_eq_false'] at hsupports
    have hi2c := mfUltralightIsI2CTag_of_compatibleWrite hsupports
    rw [Bool.or_eq_true, not_or] at hlocks
    refine ok nofun ⟨.of_page_eq rfl rfl, fun _ => ⟨hi2c, ?_⟩⟩
    constructor
    · exact (buffer.getByte 1).isLt
    · intro htrue
      exact absurd (hi2c.symm.trans htrue) nofun
    · exact Bool.eq_false_iff.mpr hlocks.1
    · exact Bool.eq_false_iff.mpr hlocks.2

lemma mfUltralightSectorSelectHandlerP1_kept :
    (mfUltralightSectorSelectHandlerP1 s buffer).Meets fun t =>
      s.Preserved t ∧ (s.compositeCallback = none → t.Inv) := by
  unfold mfUltralightSectorSelectHandlerP1
  split_ifs
  · exact ok nofun ⟨.refl s, fun hnone => .of_composite (hnone ▸ nofun)⟩
  · exact ok nofun ⟨.of_page_eq rfl rfl, fun _ => .of_composite nofun⟩

lemma mfUltralightCAuthenticateHandlerP1_kept (hnone : s.compositeCallback = none) :
    (mfUltralightCAuthenticateHandlerP1 des3 random s buffer).Meets s.Kept := by
  unfold mfUltralightCAuthenticateHandlerP1
  dsimp only
  split_ifs
  · exact ok nofun ((Quiet.refl s).kept (.of_composite (hnone ▸ nofun)))
  · exact error
  · exact ok nofun ⟨.of_page_eq rfl rfl, .of_composite nofun⟩

/-- The handlers of the table keep the memory, when no composite command is in progress. -/
lemma mfUltralightCommand_kept (hnone : s.compositeCallback = none)
    (hguard : s.Directed (.receivedStandardFrame buffer random))
    {handler : MfUltralightListenerCmdHandler} (hmem : handler ∈ mfUltralightCommand des3 random)
    (hsize : buffer.getSize = handler.cmdLenBits) (hcmd : buffer.getByte 0 = handler.cmd) :
    (handler.callback s buffer).Meets s.Kept := by
  have hs : s.Inv := .of_composite (hnone ▸ nofun)
  have hquiet : ∀ t, s.Quiet t → s.Kept t := fun t h => h.kept hs
  simp only [mfUltralightCommand, List.mem_cons, List.not_mem_nil, or_false] at hmem
  rcases hmem with rfl | rfl | rfl | rfl | rfl | rfl | rfl | rfl | rfl | rfl | rfl | rfl | rfl | rfl
  · exact mfUltralightListenerReadPageHandler_quiet.mono hquiet
  · exact mfUltralightListenerFastReadHandler_quiet.mono hquiet
  · apply mfUltralightListenerWritePageHandler_kept hnone
    apply hguard
    rw [writtenPage, hnone]
    exact if_pos ⟨hsize, hcmd⟩
  · exact mfUltralightListenerFastWriteHandler_quiet.mono hquiet
  · exact mono (@mfUltralightListenerReadVersionHandler_quiet s buffer) hquiet
  · exact mono (@mfUltralightListenerReadSignatureHandler_quiet s buffer) hquiet
  · exact mfUltralightListenerReadCounterHandler_quiet.mono hquiet
  · exact mfUltralightListenerCheckTearingHandler_quiet.mono hquiet
  · exact mfUltralightListenerAuthHandler_quiet.mono hquiet
  · exact mfUltralightListenerIncreaseCounterHandler_quiet.mono hquiet
  · exact mfUltralightSectorSelectHandlerP1_kept.mono fun t h => ⟨h.1, h.2 hnone⟩
  · exact mfUltralightCompWriteHandlerP1_kept hnone
  · exact mono (@mfUltralightListenerVcslHandler_quiet s buffer) hquiet
  · exact mfUltralightCAuthenticateHandlerP1_kept hnone

/-- The search ends in the state of a handler that was found, or in the state before. -/
lemma mfUltralightCommandSearch_kept {Q : MfUltralightListener → Prop}
    {handlers : List MfUltralightListenerCmdHandler} {command : MfUltralightCommand} (hs : Q s)
    (hhandlers : ∀ handler ∈ handlers, buffer.getSize = handler.cmdLenBits →
      buffer.getByte 0 = handler.cmd → (handler.callback s buffer).Meets Q)
    (h : mfUltralightCommandSearch s buffer handlers = .ok (command, t)) : Q t := by
  induction handlers with
  | nil =>
    cases h
    exact hs
  | cons handler handlers ih =>
    have hrest := ih fun handler hmem => hhandlers handler (List.mem_cons_of_mem _ hmem)
    rw [mfUltralightCommandSearch] at h
    split_ifs at h with hsize hcmd
    · exact hrest h
    · exact hrest h
    · have hmeets := hhandlers handler List.mem_cons_self (not_not.mp hsize) (not_not.mp hcmd)
      cases hcall : handler.callback s buffer with
      | error fault =>
        rw [hcall] at h
        cases h
      | ok r =>
        obtain ⟨hfound, hQ⟩ := hmeets r.1 r.2 hcall
        rw [hcall] at h
        simp only [if_pos hfound] at h
        cases h
        exact hQ

lemma mfUltralightCommandPostprocess_quiet (command : MfUltralightCommand)
    (s : MfUltralightListener) : s.Quiet (mfUltralightCommandPostprocess command s).2 := by
  cases command <;> exact ⟨rfl, rfl, rfl, rfl, rfl, rfl⟩

lemma mfUltralightCompositeCommandRun_kept (hs : s.Inv)
    {handler : MfUltralightCompositeHandler} {command : MfUltralightCommand}
    (hcomposite : s.compositeCallback = some handler)
    (hguard : s.Directed (.receivedStandardFrame buffer random))
    (h : mfUltralightCompositeCommandRun des3 handler s buffer = .ok (command, t)) :
    s.Kept t := by
  have hcallback : (handler.callback des3 s buffer).Meets s.Preserved := by
    cases handler with
    | compWriteP2 =>
      apply mfUltralightCompWriteHandlerP2_preserved hs hcomposite
      apply hguard
      rw [writtenPage, hcomposite]
    | sectorSelectP2 =>
      change (mfUltralightSectorSelectHandlerP2 s buffer).Meets s.Preserved
      unfold mfUltralightSectorSelectHandlerP2
      split_ifs
      · exact ok nofun (.refl s)
      · exact ok nofun (.refl s)
      · exact ok nofun (.of_page_eq rfl rfl)
    | cAuthenticateP2 =>
      exact mfUltralightCAuthenticateHandlerP2_quiet.mono fun t ht => ht.preserved
  unfold mfUltralightCompositeCommandRun at h
  cases hcall : handler.callback des3 s buffer with
  | error fault =>
    rw [hcall] at h
    cases h
  | ok r =>
    have hpreserved := (hcallback r.1 r.2 hcall).2
    rw [hcall] at h
    cases h
    exact ⟨hpreserved.trans (.of_page_eq rfl rfl), .of_composite nofun⟩

lemma mfUltralightListenerRun_kept (hs : s.Inv) {event : MfUltralightEvent}
    (hguard : s.Directed event) {command : NfcCommand}
    (h : mfUltralightListenerRun des3 s event = .ok (command, t)) : s.Kept t := by
  cases event with
  | receivedStandardFrame buffer random =>
    unfold mfUltralightListenerRun at h
    dsimp only at h
    cases hcomposite : s.compositeCallback with
    | none =>
      rw [hcomposite] at h
      cases hhandled : mfUltralightCommandSearch s buffer (mfUltralightCommand des3 random) with
      | error fault =>
        simp only [hhandled] at h
        cases h
      | ok r =>
        have hkept := mfUltralightCommandSearch_kept ((Quiet.refl s).kept hs)
          (fun handler hmem => mfUltralightCommand_kept hcomposite hguard hmem) hhandled
        simp only [hhandled] at h
        obtain rfl := congrArg Prod.snd (Except.ok.inj h)
        exact hkept.quiet (mfUltralightCommandPostprocess_quiet _ _)
    | some handler =>
      rw [hcomposite] at h
      cases hhandled : mfUltralightCompositeCommandRun des3 handler s buffer with
      | error fault =>
        simp only [hhandled] at h
        cases h
      | ok r =>
        have hkept := mfUltralightCompositeCommandRun_kept hs hcomposite hguard hhandled
        simp only [hhandled] at h
        obtain rfl := congrArg Prod.snd (Except.ok.inj h)
        exact hkept.quiet (mfUltralightCommandPostprocess_quiet _ _)
  | receivedData =>
    cases h
    exact ⟨.of_page_eq rfl rfl, .of_composite nofun⟩
  | fieldOff =>
    cases h
    exact ⟨.of_page_eq rfl rfl, .of_composite nofun⟩
  | halted =>
    cases h
    exact ⟨.of_page_eq rfl rfl, .of_composite nofun⟩

lemma mfUltralightSystem_kept (hs : s.Inv)
    (hrun : (mfUltralightSystem des3).Reaches Directed s t) : s.Kept t := by
  apply hrun.invariant ⟨.refl s, hs⟩
  intro t u event ht hguard hstep
  obtain ⟨r, hr, rfl⟩ := Option.map_eq_some_iff.mp hstep
  cases hcall : mfUltralightListenerRun des3 t event with
  | error fault =>
    rw [hcall] at hr
    cases hr
  | ok r' =>
    rw [hcall] at hr
    obtain rfl := Option.some.inj hr
    have hkept := mfUltralightListenerRun_kept ht.inv hguard hcall
    exact ⟨ht.preserved.trans hkept.preserved, hkept.inv⟩

/-- Whatever the data of the tag is: in every run whose writes are not misdirected, the UID pages
do not change between two states, no lock bit and no bit of the capability container is cleared,
a covered page does not change, and a frozen lock bit neither. -/
theorem mfUltralightListener_memorySafe (des3 : Des3) (data : MfUltralightData)
    {s t : MfUltralightListener}
    (hs : (mfUltralightSystem des3).Reaches Directed (mfUltralightListenerAlloc data) s)
    (hrun : (mfUltralightSystem des3).Reaches Directed s t) : s.Preserved t := by
  have hinit : (mfUltralightListenerAlloc data).Inv := .of_composite nofun
  exact (mfUltralightSystem_kept (mfUltralightSystem_kept hinit hs).inv hrun).preserved

/-! ### A sector on a tag without sectors -/

/-- A tag of a type whose pages are all zero. -/
def mfUltralightBlank (type : MfUltralightType) : MfUltralightData where
  uid := [0x04, 0, 0, 0, 0, 0, 0]
  type := type
  version := List.replicate 8 0
  signature := List.replicate 32 0
  counter := fun _ => 0
  tearingFlag := fun _ => 0
  page := fun _ => 0
  pagesRead := (mfUltralightFeatures type).totalPages
  pagesTotal := (mfUltralightFeatures type).totalPages
  authAttempts := 0

/-- Functions for runs that do not encrypt. -/
def idleDes3 : Des3 := ⟨fun _ _ data => (data, data), fun _ _ data => (data, data)⟩

def mfUltralightFrame (bytes : List (BitVec 8)) : MfUltralightEvent :=
  .receivedStandardFrame (.ofBytes bytes) []

lemma mfUltralightSectorOne_replay :
    (((mfUltralightSystem idleDes3).replay (fun _ _ => True)
        (mfUltralightListenerAlloc (mfUltralightBlank .origin))
        [mfUltralightFrame [0xC2, 0x00], mfUltralightFrame [0x01, 0, 0, 0],
          mfUltralightFrame [0xA2, 0x00, 1, 2, 3, 4]]).map fun s => s.data.page 0) = some 1 := by
  decide +kernel

/-- The memory is not safe along every run. -/
theorem mfUltralightListener_memoryUnsafe :
    ¬∀ (des3 : Des3) (data : MfUltralightData) (s t : MfUltralightListener),
      (mfUltralightSystem des3).Reaches (fun _ _ => True) (mfUltralightListenerAlloc data) s →
      (mfUltralightSystem des3).Reaches (fun _ _ => True) s t → s.Preserved t := by
  intro h
  obtain ⟨t, hreplay, hpage⟩ := Option.map_eq_some_iff.mp mfUltralightSectorOne_replay
  have hpreserved := h _ _ _ t .refl (.of_replay .refl hreplay)
  have hzero := (hpreserved.uidPages 0 (by decide)).symm.trans hpage
  exact absurd hzero (by decide)

/-- A run that locks page 4 of an Ultralight. -/
theorem mfUltralightListener_memorySafe_lock :
    ∃ t, t.staticLock.getLsbD 4 = true ∧
      (mfUltralightListenerAlloc (mfUltralightBlank .origin)).Preserved t := by
  have hstep : (((mfUltralightSystem idleDes3).step
      (mfUltralightListenerAlloc (mfUltralightBlank .origin))
      (mfUltralightFrame [0xA2, 0x02, 0, 0, 0x10, 0])).map fun s => s.staticLock.getLsbD 4) =
        some true := by
    decide +kernel
  obtain ⟨t, hstep, hbit⟩ := Option.map_eq_some_iff.mp hstep
  have hguard : (mfUltralightListenerAlloc (mfUltralightBlank .origin)).Directed
      (mfUltralightFrame [0xA2, 0x02, 0, 0, 0x10, 0]) := fun _ _ hmisdirected =>
    hmisdirected.1 rfl
  exact ⟨t, hbit, mfUltralightListener_memorySafe idleDes3 (mfUltralightBlank .origin) .refl
    (System.Reaches.refl.step hguard hstep)⟩

end FlipperZero
