import FlipperZero.Nfc.MfUltralightMemorySafety

/-!
# What a read discloses to a reader that has not authenticated itself

The answer to a read is compared with that of a tag whose memory differs in the pages that may not
be read. Most pages of an answer are checked under their own number; a page that is refused in the
middle of a range is replaced by one counted from page 0, and a page of sector 1 of NTAG I2C Plus
2K by one further behind, without another check.
-/

namespace FlipperZero

open Foundation

variable {s t : MfUltralightListener} {m : Memory}

/-! ### Pages that may be read -/

/-- The page may be read in this state, and holds neither the password nor PACK. -/
def MfUltralightListener.Readable (s : MfUltralightListener) (page : Nat) : Prop :=
  mfUltralightListenerCheckAccess s page .read = true ∧
    mfUltralightIsPagePwdOrPack s.data.type page = false

/-- The bytes of the configuration that reading depends on: those of a tag with triple DES, or
those of `MfUltralightConfigPages`. -/
def mfUltralightConfigBytes (type : MfUltralightType) : List Nat :=
  if mfUltralightSupportFeature (mfUltralightGetFeatureSupportSet type) .authenticate then
    [4 * 42, 4 * 43]
  else [0, 2, 3, 4].map (4 * mfUltralightGetConfigPageNum type + ·)

/-- Another memory with the same configuration and the same pages that may be read. -/
structure MfUltralightListener.Alike (s : MfUltralightListener) (m : Memory) : Prop where
  pages  : ∀ page, s.Readable page → ∀ j < 4, m (4 * page + j) = s.data.page (4 * page + j)
  config : ∀ a ∈ mfUltralightConfigBytes s.data.type, m a = s.data.page a

/-- What the reader gets to see of a handler. -/
def MfUltralightHandled.seen (r : MfUltralightHandled) :
    Except MfUltralightFault (MfUltralightCommand × List MfUltralightAnswer) :=
  r.map fun (command, s) => (command, s.sent)

/-- The answer tells nothing about the pages that may not be read. -/
def MfUltralightListener.NoLeak (s : MfUltralightListener)
    (handler : MfUltralightListenerCommandCallback) (buffer : BitBuffer) : Prop :=
  ∀ m, s.Alike m → (handler (s.withPage m) buffer).seen = (handler s buffer).seen

/-! ### What depends on the configuration only -/

lemma supports_withPage (s : MfUltralightListener) (m : Memory)
    (feature : MfUltralightFeatureSupport) :
    (s.withPage m).supports feature = s.supports feature := rfl

lemma asciiMirror_not_authenticate (h : s.supports .asciiMirror = true) :
    s.supports .authenticate = false := by
  revert h
  unfold MfUltralightListener.supports
  cases s.data.type <;> decide

section Alike

variable (h : s.Alike m)
include h

lemma config_of_alike (hauth : s.supports .authenticate = false) {i : Nat}
    (hi : i ∈ [0, 2, 3, 4]) : (s.withPage m).data.config i = s.data.config i := by
  apply h.config
  have hset : mfUltralightSupportFeature (mfUltralightGetFeatureSupportSet s.data.type)
      .authenticate = false := hauth
  rw [mfUltralightConfigBytes, if_neg (by simp [hset])]
  exact List.mem_map.mpr ⟨i, hi, rfl⟩

lemma checkAccess_of_alike (page : Nat) :
    mfUltralightListenerCheckAccess (s.withPage m) page .read =
      mfUltralightListenerCheckAccess s page .read := by
  by_cases hauth : s.supports .authenticate = true
  · have hset : mfUltralightSupportFeature (mfUltralightGetFeatureSupportSet s.data.type)
        .authenticate = true := hauth
    have h42 : m 168 = s.data.page 168 := h.config _ (by simp [mfUltralightConfigBytes, hset])
    have h43 : m 172 = s.data.page 172 := h.config _ (by simp [mfUltralightConfigBytes, hset])
    rw [mfUltralightListenerCheckAccess, mfUltralightListenerCheckAccess, supports_withPage,
      if_pos hauth, if_pos hauth]
    simp [mfUltralightCCheckAccess, MfUltralightData.pageBytes, MfUltralightListener.withPage,
      h42, h43]
  · have hauth := Bool.eq_false_iff.mpr hauth
    have h3 := config_of_alike h hauth (i := 3) (by simp)
    have h4 := config_of_alike h hauth (i := 4) (by simp)
    have hsame : mfUltralightCommonCheckAccess (s.withPage m) page .read =
        mfUltralightCommonCheckAccess s page .read := by
      simp only [mfUltralightCommonCheckAccess, MfUltralightData.auth0, MfUltralightData.prot,
        MfUltralightData.cfglck, h3, h4]
      rfl
    simp only [mfUltralightListenerCheckAccess, supports_withPage, hauth, hsame,
      Bool.false_eq_true, if_false]

lemma mirrorReadPrepare_of_alike (startPage : Nat) :
    mfUltralightMirrorReadPrepare startPage (s.withPage m) =
      (mfUltralightMirrorReadPrepare startPage s).map (·.withPage m) := by
  by_cases hmirror : s.supports .asciiMirror = true
  · have hauth := asciiMirror_not_authenticate hmirror
    have h0 := config_of_alike h hauth (i := 0) (by simp)
    have h2 := config_of_alike h hauth (i := 2) (by simp)
    have h4 := config_of_alike h hauth (i := 4) (by simp)
    have hconf : (s.withPage m).data.mirrorConf = s.data.mirrorConf := by
      simp only [MfUltralightData.mirrorConf, h0]
    have hbyte : (s.withPage m).data.mirrorByte = s.data.mirrorByte := by
      simp only [MfUltralightData.mirrorByte, h0]
    have hpage : (s.withPage m).data.mirrorPage = s.data.mirrorPage := by
      simp only [MfUltralightData.mirrorPage, h2]
    have hen : (s.withPage m).data.nfcCntEn = s.data.nfcCntEn := by
      simp only [MfUltralightData.nfcCntEn, h4]
    have hprot : (s.withPage m).data.nfcCntPwdProt = s.data.nfcCntPwdProt := by
      simp only [MfUltralightData.nfcCntPwdProt, h4]
    have hround : ∀ lastUserPage, mfUltralightMirrorCheckRound (s.withPage m).data lastUserPage =
        mfUltralightMirrorCheckRound s.data lastUserPage := by
      intro lastUserPage
      funext scan
      simp only [mfUltralightMirrorCheckRound, hpage, hbyte]
    have hmode : mfUltralightMirrorCheckMode (s.withPage m).data (s.withPage m).authState =
        mfUltralightMirrorCheckMode s.data s.authState := by
      simp only [mfUltralightMirrorCheckMode, hconf, hen, hprot]
      rfl
    have hbounds : mfUltralightMirrorCheckBoundaries (s.withPage m) =
        mfUltralightMirrorCheckBoundaries s := by
      simp only [mfUltralightMirrorCheckBoundaries, hround, hmode]
      rfl
    have hoffset : mfUltralightGetAsciiOffset (startPage % 256) (s.withPage m).data =
        mfUltralightGetAsciiOffset (startPage % 256) s.data := by
      simp only [mfUltralightGetAsciiOffset, hpage, hconf, hbyte]
    have htype : (s.withPage m).data.type = s.data.type := rfl
    rw [mfUltralightMirrorReadPrepare, mfUltralightMirrorReadPrepare, mfUltralightMirrorEnabled,
      mfUltralightMirrorEnabled, supports_withPage, hbounds, htype]
    by_cases hset : (s.supports .asciiMirror &&
        decide (mfUltralightGetConfigPageNum s.data.type ≠ 0)) = true
    · rw [if_pos hset, if_pos hset]
      cases mfUltralightMirrorCheckBoundaries s with
      | none => rfl
      | some result =>
        obtain ⟨enabled, actualMode⟩ := result
        cases enabled with
        | false => rfl
        | true =>
          simp only [Except.map, MfUltralightListener.withPage, mfUltralightGetMirrorLastPage]
          simp only [MfUltralightListener.withPage] at hoffset hpage
          rw [hoffset, hpage]
    · rw [if_neg hset, if_neg hset]
      rfl
  · have hset : ¬ (s.supports .asciiMirror &&
        decide (mfUltralightGetConfigPageNum s.data.type ≠ 0)) = true := by
      simp [Bool.eq_false_iff.mpr hmirror]
    rw [mfUltralightMirrorReadPrepare, mfUltralightMirrorReadPrepare, mfUltralightMirrorEnabled,
      mfUltralightMirrorEnabled, supports_withPage, if_neg hset]
    have hset' : ¬ (s.supports .asciiMirror &&
        decide (mfUltralightGetConfigPageNum (s.withPage m).data.type ≠ 0)) = true := hset
    rw [if_neg hset']
    rfl

end Alike

/-! ### Where the bytes of an answer come from -/

/-- The page of the memory that a page of a range is answered from, when `rollover` is the next
page for one that is refused; `none` for zeros. -/
def mfUltralightReadSource (s : MfUltralightListener) (page : Nat) (doI2CPageCheck : Bool)
    (rollover : Nat) : Option Nat :=
  if (doI2CPageCheck && !mfUltralightI2CValidatePages page page s.data.type s.sector) ||
      mfUltralightIsPagePwdOrPack s.data.type page then none
  else if mfUltralightListenerCheckAccess s page .read then
    some ((if doI2CPageCheck then mfUltralightI2CProvidePageByRequested page s.data.type s.sector
      else page) % s.data.pagesTotal)
  else some rollover

def mfUltralightNextRollover (s : MfUltralightListener) (page rollover : Nat) : Nat :=
  if mfUltralightListenerCheckAccess s page .read then rollover else rollover + 1

/-- The pages that a range is answered from. -/
def mfUltralightReadSources (s : MfUltralightListener) (startPage : Nat) (doI2CPageCheck : Bool) :
    Nat → Nat → Nat → List (Option Nat)
  | 0, _, _ => []
  | n + 1, i, rollover =>
    match mfUltralightReadSource s (startPage + i) doI2CPageCheck rollover with
    | none => none :: mfUltralightReadSources s startPage doI2CPageCheck n (i + 1) rollover
    | some p => some p :: mfUltralightReadSources s startPage doI2CPageCheck n (i + 1)
        (mfUltralightNextRollover s (startPage + i) rollover)

lemma readPages_succ (s : MfUltralightListener) (startPage : Nat) (doI2CPageCheck : Bool)
    (n i rollover : Nat) :
    (mfUltralightListenerReadPages startPage doI2CPageCheck (n + 1) i rollover s).1 =
      match mfUltralightReadSource s (startPage + i) doI2CPageCheck rollover with
      | none => [0, 0, 0, 0] ++
          (mfUltralightListenerReadPages startPage doI2CPageCheck n (i + 1) rollover s).1
      | some p =>
        (List.range 4).map (mfUltralightMirrorReadHandler (p % 256) (s.data.pageBytes p) s).1 ++
          (mfUltralightListenerReadPages startPage doI2CPageCheck n (i + 1)
            (mfUltralightNextRollover s (startPage + i) rollover)
            (mfUltralightMirrorReadHandler (p % 256) (s.data.pageBytes p) s).2).1 := by
  rw [mfUltralightListenerReadPages, mfUltralightReadSource, mfUltralightNextRollover]
  by_cases hzero : (doI2CPageCheck &&
        !mfUltralightI2CValidatePages (startPage + i) (startPage + i) s.data.type s.sector ||
      mfUltralightIsPagePwdOrPack s.data.type (startPage + i)) = true
  · simp only [if_pos hzero]
  · simp only [if_neg hzero]
    cases mfUltralightListenerCheckAccess s (startPage + i) .read <;> rfl

lemma mirrorCopy_congr (source : Memory) (asciiEnd n j asciiOffset : Nat) {dest dest' : Memory}
    (h : ∀ k < 4, dest k = dest' k) :
    (∀ k < 4, (mfUltralightMirrorCopy source asciiEnd n j asciiOffset dest).1 k =
      (mfUltralightMirrorCopy source asciiEnd n j asciiOffset dest').1 k) ∧
    (mfUltralightMirrorCopy source asciiEnd n j asciiOffset dest).2 =
      (mfUltralightMirrorCopy source asciiEnd n j asciiOffset dest').2 := by
  induction n generalizing j asciiOffset dest dest' with
  | zero => exact ⟨h, rfl⟩
  | succ n ih =>
    rw [mfUltralightMirrorCopy, mfUltralightMirrorCopy]
    split
    · apply ih
      intro k hk
      by_cases hkj : k = j
      · rw [hkj, Function.update_self, Function.update_self]
      · rw [Function.update_of_ne hkj, Function.update_of_ne hkj, h k hk]
    · exact ⟨h, rfl⟩

/-- The listener with another state of its mirror. -/
def MfUltralightListener.withMirror (s : MfUltralightListener) (mirror : MfUltralightMirrorMode) :
    MfUltralightListener :=
  { s with mirror := mirror }

/-- The mirror is only used where it is supported. -/
def MfUltralightListener.MirrorFits (s : MfUltralightListener) (mirror : MfUltralightMirrorMode) :
    Prop :=
  mirror.enabled = true → s.supports .asciiMirror = true

lemma mirrorReadHandler_of_alike (h : s.Alike m) {mirror : MfUltralightMirrorMode}
    (hmirror : s.MirrorFits mirror) (page : Nat) {dest dest' : Memory}
    (hdest : ∀ k < 4, dest' k = dest k) :
    ∃ mirror', s.MirrorFits mirror' ∧
      (mfUltralightMirrorReadHandler page dest (s.withMirror mirror)).2 = s.withMirror mirror' ∧
      (mfUltralightMirrorReadHandler page dest' ((s.withPage m).withMirror mirror)).2 =
        (s.withPage m).withMirror mirror' ∧
      ∀ k < 4, (mfUltralightMirrorReadHandler page dest' ((s.withPage m).withMirror mirror)).1 k =
        (mfUltralightMirrorReadHandler page dest (s.withMirror mirror)).1 k := by
  by_cases hen : mirror.enabled = true
  · have hauth := asciiMirror_not_authenticate (hmirror hen)
    have h0 := config_of_alike h hauth (i := 0) (by simp)
    have h2 := config_of_alike h hauth (i := 2) (by simp)
    have hpage : ((s.withPage m).withMirror mirror).data.mirrorPage =
        (s.withMirror mirror).data.mirrorPage := by
      simp only [MfUltralightData.mirrorPage]
      exact congrArg BitVec.toNat h2
    have hbyte : ((s.withPage m).withMirror mirror).data.mirrorByte =
        (s.withMirror mirror).data.mirrorByte := by
      simp only [MfUltralightData.mirrorByte]
      exact congrArg (fun b : BitVec 8 => b.toNat / 16 % 4) h0
    have hoffset : mfUltralightGetByteOffset page ((s.withPage m).withMirror mirror).data =
        mfUltralightGetByteOffset page (s.withMirror mirror).data := by
      simp only [mfUltralightGetByteOffset, hpage, hbyte]
    rw [mfUltralightMirrorReadHandler, mfUltralightMirrorReadHandler, hpage, hoffset]
    by_cases hin : (s.withMirror mirror).mirror.enabled = true ∧
        (s.withMirror mirror).data.mirrorPage ≤ page ∧
        page ≤ (s.withMirror mirror).mirror.mirrorLastPage
    · have hin' : ((s.withPage m).withMirror mirror).mirror.enabled = true ∧
          (s.withMirror mirror).data.mirrorPage ≤ page ∧
          page ≤ ((s.withPage m).withMirror mirror).mirror.mirrorLastPage := hin
      rw [if_pos hin, if_pos hin']
      obtain ⟨hbytes, hend⟩ := mirrorCopy_congr mirror.asciiMirrorData mirror.asciiEnd 4
        (mfUltralightGetByteOffset page (s.withMirror mirror).data) mirror.asciiOffset hdest
      exact ⟨{ mirror with asciiOffset := (mfUltralightMirrorCopy mirror.asciiMirrorData
          mirror.asciiEnd 4 (mfUltralightGetByteOffset page (s.withMirror mirror).data)
          mirror.asciiOffset dest).2 }, hmirror, rfl, congrArg (fun off => (s.withPage m).withMirror
        { mirror with asciiOffset := off }) hend, hbytes⟩
    · have hin' : ¬ (((s.withPage m).withMirror mirror).mirror.enabled = true ∧
          (s.withMirror mirror).data.mirrorPage ≤ page ∧
          page ≤ ((s.withPage m).withMirror mirror).mirror.mirrorLastPage) := hin
      rw [if_neg hin, if_neg hin']
      exact ⟨mirror, hmirror, rfl, rfl, hdest⟩
  · have hoff : ¬ ((s.withMirror mirror).mirror.enabled = true ∧
        (s.withMirror mirror).data.mirrorPage ≤ page ∧
        page ≤ (s.withMirror mirror).mirror.mirrorLastPage) := fun hin => hen hin.1
    have hoff' : ¬ (((s.withPage m).withMirror mirror).mirror.enabled = true ∧
        ((s.withPage m).withMirror mirror).data.mirrorPage ≤ page ∧
        page ≤ ((s.withPage m).withMirror mirror).mirror.mirrorLastPage) := fun hin => hen hin.1
    rw [mfUltralightMirrorReadHandler, mfUltralightMirrorReadHandler, if_neg hoff, if_neg hoff']
    exact ⟨mirror, hmirror, rfl, rfl, hdest⟩

/-- The pages of an answer are the same, if all that they come from may be read. -/
lemma readPages_of_alike (h : s.Alike m) (startPage : Nat) (doI2CPageCheck : Bool)
    {n i rollover : Nat} {mirror : MfUltralightMirrorMode} (hmirror : s.MirrorFits mirror)
    (hsources : ∀ p, some p ∈ mfUltralightReadSources s startPage doI2CPageCheck n i rollover →
      s.Readable p) :
    (mfUltralightListenerReadPages startPage doI2CPageCheck n i rollover
        ((s.withPage m).withMirror mirror)).1 =
      (mfUltralightListenerReadPages startPage doI2CPageCheck n i rollover
        (s.withMirror mirror)).1 := by
  induction n generalizing i rollover mirror with
  | zero => rfl
  | succ n ih =>
    have haccess : mfUltralightListenerCheckAccess ((s.withPage m).withMirror mirror)
        (startPage + i) .read = mfUltralightListenerCheckAccess s (startPage + i) .read :=
      checkAccess_of_alike h (startPage + i)
    have hsource : mfUltralightReadSource ((s.withPage m).withMirror mirror) (startPage + i)
        doI2CPageCheck rollover =
          mfUltralightReadSource s (startPage + i) doI2CPageCheck rollover := by
      simp only [mfUltralightReadSource, haccess]
      rfl
    have hsource' : mfUltralightReadSource (s.withMirror mirror) (startPage + i) doI2CPageCheck
        rollover = mfUltralightReadSource s (startPage + i) doI2CPageCheck rollover := rfl
    have hnext : mfUltralightNextRollover ((s.withPage m).withMirror mirror) (startPage + i)
        rollover = mfUltralightNextRollover s (startPage + i) rollover := by
      simp only [mfUltralightNextRollover, haccess]
    have hnext' : mfUltralightNextRollover (s.withMirror mirror) (startPage + i) rollover =
        mfUltralightNextRollover s (startPage + i) rollover := rfl
    rw [mfUltralightReadSources] at hsources
    rw [readPages_succ, readPages_succ, hsource, hsource', hnext, hnext']
    cases hp : mfUltralightReadSource s (startPage + i) doI2CPageCheck rollover with
    | none =>
      rw [hp] at hsources
      simp only
      rw [ih hmirror fun p' hp' => hsources p' (List.mem_cons_of_mem _ hp')]
    | some p =>
      rw [hp] at hsources
      simp only
      obtain ⟨mirror', hmirror', hstate, hstate', hbytes⟩ :=
        mirrorReadHandler_of_alike h hmirror (p % 256)
          (h.pages p (hsources p List.mem_cons_self))
      rw [show (s.withMirror mirror).data.pageBytes p = fun j => s.data.page (4 * p + j) from rfl,
        show ((s.withPage m).withMirror mirror).data.pageBytes p = fun j => m (4 * p + j) from rfl,
        hstate, hstate', ih hmirror' fun p' hp' => hsources p' (List.mem_cons_of_mem _ hp')]
      congr 1
      exact List.map_congr_left fun k hk => hbytes k (List.mem_range.mp hk)

/-! ### What the handlers send -/

lemma mirrorReadPrepare_withMirror {startPage : Nat}
    (h : mfUltralightMirrorReadPrepare startPage s = .ok t) :
    ∃ mirror, t = s.withMirror mirror ∧ s.MirrorFits mirror ∧
      (mirror.enabled = true → 3 < s.data.mirrorPage) := by
  rw [mfUltralightMirrorReadPrepare, mfUltralightMirrorEnabled] at h
  by_cases hset : (s.supports .asciiMirror &&
      decide (mfUltralightGetConfigPageNum s.data.type ≠ 0)) = true
  · rw [if_pos hset] at h
    have hsupport : s.supports .asciiMirror = true := by
      simp only [Bool.and_eq_true] at hset
      exact hset.1
    cases hbounds : mfUltralightMirrorCheckBoundaries s with
    | none =>
      rw [hbounds] at h
      cases h
    | some result =>
      obtain ⟨enabled, actualMode⟩ := result
      rw [hbounds] at h
      have hpage : enabled = true → 3 < s.data.mirrorPage := by
        intro hen
        by_contra hle
        rw [mfUltralightMirrorCheckBoundaries, loop, mfUltralightMirrorCheckRound] at hbounds
        simp only [Nat.le_of_not_lt hle, if_true] at hbounds
        by_cases hnone : mfUltralightMirrorCheckMode s.data s.authState = .none
        · rw [if_pos hnone] at hbounds
          cases hbounds
          cases hen
        · rw [if_neg hnone] at hbounds
          cases hbounds
          cases hen
      cases enabled with
      | false =>
        cases h
        exact ⟨_, rfl, fun _ => hsupport, fun hen => by cases hen⟩
      | true =>
        cases h
        exact ⟨_, rfl, fun _ => hsupport, fun _ => hpage rfl⟩
  · rw [if_neg hset] at h
    cases h
    refine ⟨_, rfl, ?_, ?_⟩ <;>
    · intro hen
      cases hen

lemma mirrorReadHandler_sent (page : Nat) (dest : Memory) :
    (mfUltralightMirrorReadHandler page dest s).2.sent = s.sent := by
  rw [mfUltralightMirrorReadHandler]
  split <;> rfl

lemma readPages_sent (startPage : Nat) (doI2CPageCheck : Bool) (n i rollover : Nat) :
    (mfUltralightListenerReadPages startPage doI2CPageCheck n i rollover s).2.sent = s.sent := by
  induction n generalizing i rollover s with
  | zero => rfl
  | succ n ih =>
    rw [mfUltralightListenerReadPages]
    split
    · exact ih _ _
    · exact (ih _ _).trans (mirrorReadHandler_sent _ _)

lemma singleCounterTryIncrease_sent : (mfUltralightSingleCounterTryIncrease s).sent = s.sent := by
  rw [mfUltralightSingleCounterTryIncrease]
  split_ifs <;> rfl

def mfUltralightSendPages (s : MfUltralightListener) (startPage pageCnt : Nat) :
    Except MfUltralightFault (MfUltralightCommand × List MfUltralightAnswer) :=
  (mfUltralightMirrorReadPrepare startPage s).map fun t =>
    (.processed, s.sent ++ [.standardFrame (mfUltralightListenerReadPages startPage
      (mfUltralightIsI2CTag s.data.type) pageCnt 0 0 t).1])

lemma performRead_seen (startPage pageCnt : Nat) :
    MfUltralightHandled.seen
      (match mfUltralightListenerPerformRead s startPage pageCnt
          (mfUltralightIsI2CTag s.data.type) with
      | .error fault => .error fault
      | .ok (pages, t) => .ok (.processed, t.send (.standardFrame pages))) =
    mfUltralightSendPages s startPage pageCnt := by
  rw [mfUltralightListenerPerformRead, mfUltralightSendPages]
  cases hprepare : mfUltralightMirrorReadPrepare startPage s with
  | error fault => rfl
  | ok t =>
    obtain ⟨mirror, rfl, -⟩ := mirrorReadPrepare_withMirror hprepare
    simp only [MfUltralightHandled.seen, Except.map, MfUltralightListener.send,
      singleCounterTryIncrease_sent, readPages_sent]
    rfl

/-- The checks of `mf_ultralight_listener_read_page_handler`. -/
def mfUltralightRefusesRead (s : MfUltralightListener) (startPage : Nat) : Bool :=
  (if mfUltralightIsI2CTag s.data.type then
      !mfUltralightI2CValidatePages startPage startPage s.data.type s.sector
    else decide (s.data.pagesTotal < startPage)) ||
    !mfUltralightListenerCheckAccess s startPage .read

/-- The checks of `mf_ultralight_listener_fast_read_handler`. -/
def mfUltralightRefusesFastRead (s : MfUltralightListener) (startPage endPage : Nat) : Bool :=
  (if mfUltralightIsI2CTag s.data.type then
      !mfUltralightI2CValidatePages startPage endPage s.data.type s.sector
    else decide ((s.data.pagesTotal : Int) - 1 < endPage)) ||
    decide (endPage < startPage) || !mfUltralightListenerCheckAccess s startPage .read ||
    !mfUltralightListenerCheckAccess s endPage .read

lemma readPageHandler_seen (buffer : BitBuffer) :
    (mfUltralightListenerReadPageHandler s buffer).seen =
      if mfUltralightRefusesRead s (buffer.getByte 1).toNat then .ok (.notProcessedNAK, s.sent)
      else mfUltralightSendPages s (buffer.getByte 1).toNat 4 := by
  rw [mfUltralightListenerReadPageHandler, mfUltralightRefusesRead, ← performRead_seen]
  simp only [Bool.or_eq_true, ite_or]
  split_ifs <;> rfl

lemma fastReadHandler_seen (buffer : BitBuffer) :
    (mfUltralightListenerFastReadHandler s buffer).seen =
      if !s.supports .fastRead then .ok (.notProcessedSilent, s.sent)
      else if mfUltralightRefusesFastRead s (buffer.getByte 1).toNat (buffer.getByte 2).toNat then
        .ok (.notProcessedNAK, s.sent)
      else if 64 < ((buffer.getByte 2).toNat - (buffer.getByte 1).toNat + 1) % 256 then
        .error .pagesOverflow
      else mfUltralightSendPages s (buffer.getByte 1).toNat
        (((buffer.getByte 2).toNat - (buffer.getByte 1).toNat + 1) % 256) := by
  rw [mfUltralightListenerFastReadHandler, mfUltralightRefusesFastRead, ← performRead_seen]
  simp only [Bool.or_eq_true, decide_eq_true_eq, ite_or]
  split_ifs <;> rfl

/-! ### From the sources to the answer -/

/-- All pages that a range is answered from may be read. -/
def MfUltralightListener.SourcesReadable (s : MfUltralightListener) (startPage pageCnt : Nat) :
    Prop :=
  ∀ p, some p ∈ mfUltralightReadSources s startPage (mfUltralightIsI2CTag s.data.type) pageCnt 0 0 →
    s.Readable p

lemma sendPages_of_alike (h : s.Alike m) {startPage pageCnt : Nat}
    (hsources : s.SourcesReadable startPage pageCnt) :
    mfUltralightSendPages (s.withPage m) startPage pageCnt =
      mfUltralightSendPages s startPage pageCnt := by
  rw [mfUltralightSendPages, mfUltralightSendPages, mirrorReadPrepare_of_alike h]
  cases hprepare : mfUltralightMirrorReadPrepare startPage s with
  | error fault => rfl
  | ok t =>
    obtain ⟨mirror, rfl, hmirror, -⟩ := mirrorReadPrepare_withMirror hprepare
    have hpages :=
      readPages_of_alike h startPage (mfUltralightIsI2CTag s.data.type) hmirror hsources
    simp only [Except.map]
    exact congrArg (fun pages => Except.ok (MfUltralightCommand.processed,
      s.sent ++ [MfUltralightAnswer.standardFrame pages])) hpages

lemma mirrorReadHandler_state (s : MfUltralightListener) (mirror : MfUltralightMirrorMode)
    (page : Nat) (dest : Memory) : ∃ mirror', mirror'.enabled = mirror.enabled ∧
      (mfUltralightMirrorReadHandler page dest (s.withMirror mirror)).2 = s.withMirror mirror' := by
  rw [mfUltralightMirrorReadHandler]
  split
  · exact ⟨{ mirror with asciiOffset := (mfUltralightMirrorCopy mirror.asciiMirrorData
      mirror.asciiEnd 4 (mfUltralightGetByteOffset page s.data) mirror.asciiOffset dest).2 },
      rfl, rfl⟩
  · exact ⟨mirror, rfl, rfl⟩

lemma readPages_byte (startPage : Nat) (doI2CPageCheck : Bool) {n i rollover j p : Nat}
    {mirror : MfUltralightMirrorMode}
    (hmirror : mirror.enabled = true → p % 256 < s.data.mirrorPage)
    (hp : (mfUltralightReadSources s startPage doI2CPageCheck n i rollover)[j]? = some (some p)) :
    (mfUltralightListenerReadPages startPage doI2CPageCheck n i rollover
      (s.withMirror mirror)).1[4 * j + 1]? = some (s.data.page (4 * p + 1)) := by
  induction n generalizing i rollover j mirror with
  | zero => simp [mfUltralightReadSources] at hp
  | succ n ih =>
    rw [mfUltralightReadSources] at hp
    rw [readPages_succ]
    have hsource : mfUltralightReadSource (s.withMirror mirror) (startPage + i) doI2CPageCheck
        rollover = mfUltralightReadSource s (startPage + i) doI2CPageCheck rollover := rfl
    rw [hsource]
    cases hq : mfUltralightReadSource s (startPage + i) doI2CPageCheck rollover with
    | none =>
      rw [hq] at hp
      cases j with
      | zero => simp at hp
      | succ j =>
        rw [List.getElem?_cons_succ] at hp
        simp only
        rw [List.getElem?_append_right (by simp; omega)]
        exact ih hmirror hp
    | some q =>
      rw [hq] at hp
      simp only
      cases j with
      | zero =>
        rw [List.getElem?_cons_zero] at hp
        obtain rfl : q = p := Option.some.inj (Option.some.inj hp)
        have hplain : (mfUltralightMirrorReadHandler (q % 256)
            ((s.withMirror mirror).data.pageBytes q) (s.withMirror mirror)).1 =
            (s.withMirror mirror).data.pageBytes q := by
          rw [mfUltralightMirrorReadHandler, if_neg]
          rintro ⟨hen, hle, -⟩
          exact absurd (hmirror hen) (Nat.not_lt_of_le hle)
        rw [hplain]
        rfl
      | succ j =>
        rw [List.getElem?_cons_succ] at hp
        rw [List.getElem?_append_right (by simp; omega)]
        obtain ⟨mirror', hmirror', hstate⟩ := mirrorReadHandler_state s mirror (q % 256)
          ((s.withMirror mirror).data.pageBytes q)
        rw [hstate]
        have hindex : 4 * (j + 1) + 1 - ((List.range 4).map (mfUltralightMirrorReadHandler (q % 256)
            ((s.withMirror mirror).data.pageBytes q) (s.withMirror mirror)).1).length =
            4 * j + 1 := by
          simp; omega
        rw [hindex]
        exact ih (by rw [hmirror']; exact hmirror) hp

/-- The memory with another second byte in one page. -/
def MfUltralightListener.changedAt (s : MfUltralightListener) (p : Nat) : Memory :=
  Function.update s.data.page (4 * p + 1) (s.data.page (4 * p + 1) + 1)

lemma changedAt_alike {p : Nat} (hp : ¬ s.Readable p) : s.Alike (s.changedAt p) := by
  constructor
  · intro page hpage j hj
    have hne : page ≠ p := fun heq => hp (heq ▸ hpage)
    exact Function.update_of_ne (by omega) _ _
  · intro a ha
    refine Function.update_of_ne ?_ _ _
    rw [mfUltralightConfigBytes] at ha
    split at ha
    · simp only [List.mem_cons, List.not_mem_nil, or_false] at ha
      omega
    · simp only [List.map_cons, List.map_nil, List.mem_cons, List.not_mem_nil, or_false] at ha
      omega

lemma readSources_of_alike (h : s.Alike m) (startPage : Nat) (doI2CPageCheck : Bool)
    (n i rollover : Nat) :
    mfUltralightReadSources (s.withPage m) startPage doI2CPageCheck n i rollover =
      mfUltralightReadSources s startPage doI2CPageCheck n i rollover := by
  induction n generalizing i rollover with
  | zero => rfl
  | succ n ih =>
    have haccess := checkAccess_of_alike h (startPage + i)
    have hsource : mfUltralightReadSource (s.withPage m) (startPage + i) doI2CPageCheck rollover =
        mfUltralightReadSource s (startPage + i) doI2CPageCheck rollover := by
      simp only [mfUltralightReadSource, haccess]
      rfl
    simp only [mfUltralightReadSources, mfUltralightNextRollover, haccess, hsource, ih]

lemma sendPages_leaks {startPage pageCnt p : Nat}
    (hsend : ∃ t, mfUltralightMirrorReadPrepare startPage s = .ok t)
    (hp : some p ∈ mfUltralightReadSources s startPage (mfUltralightIsI2CTag s.data.type)
      pageCnt 0 0)
    (hmirror : s.supports .asciiMirror = true → p < 4) (hunreadable : ¬ s.Readable p) :
    mfUltralightSendPages (s.withPage (s.changedAt p)) startPage pageCnt ≠
      mfUltralightSendPages s startPage pageCnt := by
  obtain ⟨t, ht⟩ := hsend
  have halike := changedAt_alike hunreadable
  obtain ⟨mirror, rfl, hfits, hpage⟩ := mirrorReadPrepare_withMirror ht
  obtain ⟨j, hj⟩ := List.getElem?_of_mem hp
  have hplain : mirror.enabled = true → p % 256 < s.data.mirrorPage := by
    intro hen
    have hlt := hmirror (hfits hen)
    have hgt := hpage hen
    omega
  rw [mfUltralightSendPages, mfUltralightSendPages, mirrorReadPrepare_of_alike halike, ht]
  intro heq
  simp only [Except.map, Except.ok.injEq, Prod.mk.injEq, true_and] at heq
  have hlist := List.append_cancel_left (show s.sent ++ _ = s.sent ++ _ from heq)
  simp only [List.cons.injEq, MfUltralightAnswer.standardFrame.injEq, and_true] at hlist
  have hplain' : mirror.enabled = true →
      p % 256 < (s.withPage (s.changedAt p)).data.mirrorPage := by
    intro hen
    have h2 := config_of_alike halike (asciiMirror_not_authenticate (hfits hen)) (i := 2) (by simp)
    rw [MfUltralightData.mirrorPage, h2]
    exact hplain hen
  have hbyte := readPages_byte startPage (mfUltralightIsI2CTag s.data.type) hplain hj
  rw [← readSources_of_alike halike] at hj
  have hbyte' := readPages_byte startPage (mfUltralightIsI2CTag s.data.type) hplain' hj
  have hsame : s.changedAt p (4 * p + 1) = s.data.page (4 * p + 1) :=
    Option.some.inj (hbyte'.symm.trans ((congrArg (·[4 * j + 1]?) hlist).trans hbyte))
  rw [MfUltralightListener.changedAt, Function.update_self] at hsame
  have hnat := congrArg BitVec.toNat hsame
  rw [BitVec.toNat_add] at hnat
  simp at hnat
  omega

/-! ### The pages that a range is answered from -/

/-- Page `q` is answered from page `p` of the memory. -/
structure MfUltralightListener.MapsTo (s : MfUltralightListener) (doI2CPageCheck : Bool)
    (q p : Nat) : Prop where
  valid  : doI2CPageCheck = true → mfUltralightI2CValidatePages q q s.data.type s.sector = true
  pwd    : mfUltralightIsPagePwdOrPack s.data.type q = false
  access : mfUltralightListenerCheckAccess s q .read = true
  eq     : p = (if doI2CPageCheck then
    mfUltralightI2CProvidePageByRequested q s.data.type s.sector else q) % s.data.pagesTotal

/-- Page `p` is one of those that stand in for the refused pages from `lo` to `hi`: there are no
more of them than pages from the first refused one on. -/
structure MfUltralightListener.StandsIn (s : MfUltralightListener) (lo hi rollover p : Nat) :
    Prop where
  ge : rollover ≤ p
  lt : ∀ first, (∀ q, lo ≤ q → q < hi → mfUltralightListenerCheckAccess s q .read = false →
    first ≤ q) → p < rollover + (hi - max first lo)

lemma mem_readSources {startPage n i rollover p : Nat} {doI2CPageCheck : Bool}
    (h : some p ∈ mfUltralightReadSources s startPage doI2CPageCheck n i rollover) :
    (∃ q, startPage + i ≤ q ∧ q < startPage + i + n ∧ s.MapsTo doI2CPageCheck q p) ∨
      s.StandsIn (startPage + i) (startPage + i + n) rollover p := by
  induction n generalizing i rollover with
  | zero => simp [mfUltralightReadSources] at h
  | succ n ih =>
    -- the rest of the range, behind a page that is refused or not
    have hrest : ∀ r, (r = rollover ∨
          (r = rollover + 1 ∧ mfUltralightListenerCheckAccess s (startPage + i) .read = false)) →
        some p ∈ mfUltralightReadSources s startPage doI2CPageCheck n (i + 1) r →
        (∃ q, startPage + i ≤ q ∧ q < startPage + i + (n + 1) ∧ s.MapsTo doI2CPageCheck q p) ∨
          s.StandsIn (startPage + i) (startPage + i + (n + 1)) rollover p := by
      intro r hr hmem
      refine (ih hmem).imp ?_ ?_
      · rintro ⟨q, hge, hlt, hq⟩
        exact ⟨q, by omega, by omega, hq⟩
      · rintro ⟨hge, hbound⟩
        refine ⟨by omega, fun first hfirst => ?_⟩
        have hlt := hbound first fun q hq hq' => hfirst q (by omega) (by omega)
        rcases hr with rfl | ⟨rfl, hrefused⟩
        · omega
        · have hle := hfirst (startPage + i) (by omega) (by omega) hrefused
          omega
    rw [mfUltralightReadSources, mfUltralightReadSource] at h
    by_cases hzero : (doI2CPageCheck &&
          !mfUltralightI2CValidatePages (startPage + i) (startPage + i) s.data.type s.sector ||
        mfUltralightIsPagePwdOrPack s.data.type (startPage + i)) = true
    · rw [if_pos hzero] at h
      simp only [List.mem_cons, reduceCtorEq, false_or] at h
      exact hrest rollover (.inl rfl) h
    · rw [if_neg hzero] at h
      simp only [Bool.or_eq_true, Bool.and_eq_true, Bool.not_eq_true', not_or, not_and,
        Bool.not_eq_false, Bool.not_eq_true] at hzero
      by_cases haccess : mfUltralightListenerCheckAccess s (startPage + i) .read = true
      · rw [if_pos haccess, mfUltralightNextRollover, if_pos haccess] at h
        rcases List.mem_cons.mp h with hp | h
        · exact .inl ⟨startPage + i, by omega, by omega, hzero.1, hzero.2, haccess,
            Option.some.inj hp⟩
        · exact hrest rollover (.inl rfl) h
      · rw [if_neg haccess, mfUltralightNextRollover, if_neg haccess] at h
        rcases List.mem_cons.mp h with hp | h
        · obtain rfl : p = rollover := Option.some.inj hp
          refine .inr ⟨Nat.le_refl _, fun first hfirst => ?_⟩
          have hle := hfirst (startPage + i) (by omega) (by omega)
            (Bool.eq_false_iff.mpr haccess)
          omega
        · exact hrest (rollover + 1) (.inr ⟨rfl, Bool.eq_false_iff.mpr haccess⟩) h

lemma readSources_mapped {startPage n i rollover p q : Nat} {doI2CPageCheck : Bool}
    (hge : startPage + i ≤ q) (hlt : q < startPage + i + n) (h : s.MapsTo doI2CPageCheck q p) :
    some p ∈ mfUltralightReadSources s startPage doI2CPageCheck n i rollover := by
  induction n generalizing i rollover with
  | zero => omega
  | succ n ih =>
    rw [mfUltralightReadSources]
    by_cases heq : startPage + i = q
    · have hsource : mfUltralightReadSource s (startPage + i) doI2CPageCheck rollover = some p := by
        obtain ⟨hvalid, hpwd, haccess, hp⟩ := h
        rw [heq, mfUltralightReadSource, if_neg, if_pos haccess, hp]
        cases doI2CPageCheck <;> simp_all
      rw [hsource]
      exact List.mem_cons_self
    · cases mfUltralightReadSource s (startPage + i) doI2CPageCheck rollover with
      | none => exact List.mem_cons_of_mem _ (ih (by omega) (by omega))
      | some p => exact List.mem_cons_of_mem _ (ih (by omega) (by omega))

/-! ### Which pages may be read -/

section Idle

variable (hidle : s.authState ≠ .success)
include hidle

lemma checkAccess_password (hauth : s.supports .authenticate = false)
    (hpassword : s.supports .passwordAuth = true) (page : Nat) :
    mfUltralightListenerCheckAccess s page .read = true ↔
      ¬ (s.data.auth0 ≤ page ∧ s.data.prot = true) := by
  simp only [mfUltralightListenerCheckAccess, hauth, hpassword, mfUltralightCommonCheckAccess]
  simp [hidle]
  rw [← Nat.not_le, imp_iff_not_or]

omit hidle in
lemma checkAccess_open (hauth : s.supports .authenticate = false)
    (hpassword : s.supports .passwordAuth = false) (page : Nat) :
    mfUltralightListenerCheckAccess s page .read = true := by
  simp [mfUltralightListenerCheckAccess, hauth, hpassword]

lemma checkAccess_mono {p q : Nat} (hle : p ≤ q)
    (h : mfUltralightListenerCheckAccess s q .read = true) :
    mfUltralightListenerCheckAccess s p .read = true := by
  by_cases hauth : s.supports .authenticate = true
  · rw [mfUltralightListenerCheckAccess, if_pos hauth] at h ⊢
    simp only [mfUltralightCCheckAccess] at h ⊢
    split_ifs at h ⊢ <;> simp_all <;> omega
  · have hauth := Bool.eq_false_iff.mpr hauth
    by_cases hpassword : s.supports .passwordAuth = true
    · rw [checkAccess_password hidle hauth hpassword] at h ⊢
      exact fun hp => h ⟨Nat.le_trans hp.1 hle, hp.2⟩
    · exact checkAccess_open hauth (Bool.eq_false_iff.mpr hpassword) p

end Idle

lemma not_pwdOrPack_of_lt {type : MfUltralightType} {page : Nat} (h : page < 18) :
    mfUltralightIsPagePwdOrPack type page = false := by
  simp only [mfUltralightIsPagePwdOrPack, Bool.and_eq_false_iff, Bool.or_eq_false_iff,
    beq_eq_false_iff_ne]
  cases type <;> simp [mfUltralightGetPwdPageNum, mfUltralightGetConfigPageNum,
    mfUltralightFeatures] <;> omega

/-- Behind the last page of the memory, a page is answered from the first ones. -/
lemma mod_pagesTotal {q total : Nat} (h : q ≤ total + 3) : q % total = q ∨ q % total ≤ 3 := by
  rcases Nat.lt_or_ge q total with hlt | hge
  · exact .inl (Nat.mod_eq_of_lt hlt)
  · right
    rw [Nat.mod_eq_sub_mod hge]
    exact (Nat.mod_le _ _).trans (by omega)

/-- The pages of a tag that is not an NTAG I2C are answered from themselves or from the first
ones. -/
lemma readable_of_mapsTo (hidle : s.authState ≠ .success) {q p : Nat} (h : s.MapsTo false q p)
    (hq : q ≤ s.data.pagesTotal + 3) : s.Readable p := by
  obtain ⟨-, hpwd, haccess, hp⟩ := h
  rw [if_neg (by simp)] at hp
  refine ⟨checkAccess_mono hidle (hp ▸ Nat.mod_le _ _) haccess, ?_⟩
  rcases mod_pagesTotal hq with heq | hle
  · rw [hp, heq]
    exact hpwd
  · exact not_pwdOrPack_of_lt (by omega)

lemma i2cPlus_mapping {type : MfUltralightType} {sector q : Nat}
    (htype : type = .ntagI2CPlus1K ∨ type = .ntagI2CPlus2K)
    (hvalid : mfUltralightI2CValidatePages q q type sector = true)
    (hsector : ¬ (type = .ntagI2CPlus2K ∧ sector = 1)) :
    mfUltralightI2CProvidePageByRequested q type sector ≤ 235 ∧
      mfUltralightI2CProvidePageByRequested q type sector ≤ q ∧
      (mfUltralightI2CProvidePageByRequested q type sector = q ∨
        230 < mfUltralightI2CProvidePageByRequested q type sector) := by
  rcases sector with _ | _ | _ | _ | sector
  · rcases htype with rfl | rfl <;>
      simp only [mfUltralightI2CValidatePages, mfUltralightI2CPageValidatorForSector0,
        mfUltralightI2CProvidePageByRequested, mfUltralightI2CPageProviderForSector0,
        Bool.or_eq_true, Bool.and_eq_true, decide_eq_true_eq] at hvalid ⊢ <;>
      split_ifs <;> omega
  · rcases htype with rfl | rfl
    · exact absurd hvalid (by simp [mfUltralightI2CValidatePages,
        mfUltralightI2CPageValidatorForSector1])
    · exact absurd ⟨rfl, rfl⟩ hsector
  · exact absurd hvalid (by simp [mfUltralightI2CValidatePages])
  · rcases htype with rfl | rfl <;>
      simp only [mfUltralightI2CValidatePages, mfUltralightI2CPageValidatorForSector3,
        mfUltralightI2CProvidePageByRequested, mfUltralightI2CPageProviderForSector3,
        Bool.and_eq_true, decide_eq_true_eq] at hvalid ⊢ <;>
      split_ifs <;> omega
  · exact absurd hvalid (by simp [mfUltralightI2CValidatePages])

lemma i2cPlus_pwdOrPack {type : MfUltralightType} (page : Nat)
    (htype : type = .ntagI2CPlus1K ∨ type = .ntagI2CPlus2K) :
    mfUltralightIsPagePwdOrPack type page = (page == 229 || page == 230) := by
  rcases htype with rfl | rfl <;>
    simp [mfUltralightIsPagePwdOrPack, mfUltralightGetPwdPageNum, mfUltralightGetConfigPageNum,
      mfUltralightFeatures]

lemma readable_of_mapsTo_i2c (hidle : s.authState ≠ .success) {q p : Nat}
    (hi2c : mfUltralightIsI2CTag s.data.type = true) (h : s.MapsTo true q p)
    (hsector : ¬ (s.data.type = .ntagI2CPlus2K ∧ s.sector = 1)) : s.Readable p := by
  obtain ⟨hvalid, hpwd, haccess, hp⟩ := h
  rw [if_pos rfl] at hp
  by_cases hplus : s.data.type = .ntagI2CPlus1K ∨ s.data.type = .ntagI2CPlus2K
  · obtain ⟨hmax, hle, hmap⟩ := i2cPlus_mapping hplus (hvalid rfl) hsector
    have hple : p ≤ mfUltralightI2CProvidePageByRequested q s.data.type s.sector :=
      hp ▸ Nat.mod_le _ _
    refine ⟨checkAccess_mono hidle (hple.trans hle) haccess, ?_⟩
    rw [i2cPlus_pwdOrPack _ hplus] at hpwd ⊢
    simp only [Bool.or_eq_false_iff, beq_eq_false_iff_ne] at hpwd ⊢
    rcases Nat.lt_or_ge (mfUltralightI2CProvidePageByRequested q s.data.type s.sector)
      s.data.pagesTotal with hlt | hge
    · rw [Nat.mod_eq_of_lt hlt] at hp
      omega
    · rw [Nat.mod_eq_sub_mod hge] at hp
      have hsub := Nat.mod_le (mfUltralightI2CProvidePageByRequested q s.data.type s.sector -
        s.data.pagesTotal) s.data.pagesTotal
      rcases Nat.eq_zero_or_pos s.data.pagesTotal with hzero | hpos
      · rw [hzero] at hp
        simp only [Nat.sub_zero, Nat.mod_zero] at hp
        omega
      · have hlt := Nat.mod_lt (mfUltralightI2CProvidePageByRequested q s.data.type s.sector -
          s.data.pagesTotal) hpos
        omega
  · have hopen : s.supports .authenticate = false ∧ s.supports .passwordAuth = false ∧
        mfUltralightIsPagePwdOrPack s.data.type p = false := by
      unfold MfUltralightListener.supports
      generalize s.data.type = type at hi2c hplus
      cases type <;> simp_all [mfUltralightIsI2CTag] <;> exact ⟨by decide, by decide, rfl⟩
    exact ⟨checkAccess_open hopen.1 hopen.2.1 p, hopen.2.2⟩

/-! ### When a read discloses nothing -/

/-- A read from the page before the first protected one, which is page 1 or 2: the pages that
stand in for the refused ones go up to it. -/
def MfUltralightListener.RolloverLeaks (s : MfUltralightListener) (startPage : Nat) : Prop :=
  s.supports .passwordAuth = true ∧ s.data.prot = true ∧ startPage < s.data.auth0 ∧
    2 * s.data.auth0 < startPage + 4

/-- A read of sector 1 of an NTAG I2C Plus 2K: a page of the range that may be read is mapped to
one that may not. -/
def MfUltralightListener.SectorLeaks (s : MfUltralightListener) (startPage pageCnt : Nat) : Prop :=
  s.data.type = .ntagI2CPlus2K ∧ s.sector = 1 ∧
    ∃ q, startPage ≤ q ∧ q < startPage + pageCnt ∧ q ≤ 0xFF ∧ s.Readable q ∧
      ¬ s.Readable ((q + 236) % s.data.pagesTotal)

lemma readable_of_sector1 {q p startPage pageCnt : Nat}
    (hsector : s.data.type = .ntagI2CPlus2K ∧ s.sector = 1) (h : s.MapsTo true q p)
    (hge : startPage ≤ q) (hlt : q < startPage + pageCnt)
    (hleak : ¬ s.SectorLeaks startPage pageCnt) : s.Readable p := by
  obtain ⟨hvalid, hpwd, haccess, hp⟩ := h
  have hvalid := hvalid rfl
  rw [if_pos rfl] at hp
  rw [hsector.1, hsector.2] at hvalid hp
  by_contra hunreadable
  refine hleak ⟨hsector.1, hsector.2, q, hge, hlt, ?_, ⟨haccess, hpwd⟩, hp ▸ hunreadable⟩
  simp only [mfUltralightI2CValidatePages, mfUltralightI2CPageValidatorForSector1,
    Bool.and_eq_true, decide_eq_true_eq] at hvalid
  exact hvalid.1

lemma readable_of_mapsTo_range (hidle : s.authState ≠ .success) {q p startPage pageCnt : Nat}
    (h : s.MapsTo (mfUltralightIsI2CTag s.data.type) q p) (hge : startPage ≤ q)
    (hlt : q < startPage + pageCnt) (hleak : ¬ s.SectorLeaks startPage pageCnt)
    (htotal : mfUltralightIsI2CTag s.data.type = false → q ≤ s.data.pagesTotal + 3) :
    s.Readable p := by
  by_cases hi2c : mfUltralightIsI2CTag s.data.type = true
  · rw [hi2c] at h
    by_cases hsector : s.data.type = .ntagI2CPlus2K ∧ s.sector = 1
    · exact readable_of_sector1 hsector h hge hlt hleak
    · exact readable_of_mapsTo_i2c hidle hi2c h hsector
  · have hi2c := Bool.eq_false_iff.mpr hi2c
    rw [hi2c] at h
    exact readable_of_mapsTo hidle h (htotal hi2c)

lemma readable_of_standsIn (hidle : s.authState ≠ .success) {startPage p : Nat}
    (h : s.StandsIn startPage (startPage + 4) 0 p)
    (hstart : mfUltralightListenerCheckAccess s startPage .read = true)
    (hleak : ¬ s.RolloverLeaks startPage) : s.Readable p := by
  have hthree : p < 3 := by
    have hlt := h.lt (startPage + 1) fun q hge _ hrefused => by
      rcases Nat.eq_or_lt_of_le hge with rfl | hlt
      · rw [hstart] at hrefused
        cases hrefused
      · exact hlt
    omega
  refine ⟨?_, not_pwdOrPack_of_lt (by omega)⟩
  by_cases hauth : s.supports .authenticate = true
  · rw [mfUltralightListenerCheckAccess, if_pos hauth]
    simp only [mfUltralightCCheckAccess]
    split_ifs <;> first | rfl | omega
  · have hauth := Bool.eq_false_iff.mpr hauth
    by_cases hpassword : s.supports .passwordAuth = true
    · rw [checkAccess_password hidle hauth hpassword] at hstart ⊢
      rintro ⟨hle, hprot⟩
      have hbefore : startPage < s.data.auth0 := by
        by_contra hge
        exact hstart ⟨Nat.le_of_not_lt hge, hprot⟩
      have hlt := h.lt s.data.auth0 fun q _ _ hrefused => by
        by_contra hlt
        have hfree := (checkAccess_password hidle hauth hpassword q).mpr fun hin => hlt hin.1
        rw [hfree] at hrefused
        cases hrefused
      exact hleak ⟨hpassword, hprot, hbefore, by omega⟩
    · exact checkAccess_open hauth (Bool.eq_false_iff.mpr hpassword) p

lemma read_sourcesReadable (hidle : s.authState ≠ .success) {startPage : Nat}
    (hpasses : mfUltralightRefusesRead s startPage = false)
    (hrollover : ¬ s.RolloverLeaks startPage) (hsector : ¬ s.SectorLeaks startPage 4) :
    s.SourcesReadable startPage 4 := by
  simp only [mfUltralightRefusesRead, Bool.or_eq_false_iff, Bool.not_eq_false'] at hpasses
  obtain ⟨hrange, hstart⟩ := hpasses
  intro p hp
  rcases mem_readSources hp with ⟨q, hge, hlt, hmaps⟩ | hin
  · refine readable_of_mapsTo_range hidle hmaps hge hlt hsector fun hi2c => ?_
    rw [if_neg (by simp [hi2c])] at hrange
    have hle := Nat.le_of_not_lt (of_decide_eq_false hrange)
    omega
  · exact readable_of_standsIn hidle hin hstart hrollover

lemma fastRead_sourcesReadable (hidle : s.authState ≠ .success) {startPage endPage pageCnt : Nat}
    (hpasses : mfUltralightRefusesFastRead s startPage endPage = false)
    (hcnt : startPage + pageCnt ≤ endPage + 1) (hsector : ¬ s.SectorLeaks startPage pageCnt) :
    s.SourcesReadable startPage pageCnt := by
  simp only [mfUltralightRefusesFastRead, Bool.or_eq_false_iff, Bool.not_eq_false'] at hpasses
  obtain ⟨⟨⟨hrange, -⟩, -⟩, hend⟩ := hpasses
  intro p hp
  rcases mem_readSources hp with ⟨q, hge, hlt, hmaps⟩ | hin
  · refine readable_of_mapsTo_range hidle hmaps hge hlt hsector fun hi2c => ?_
    rw [if_neg (by simp [hi2c])] at hrange
    have hle := of_decide_eq_false hrange
    omega
  · -- no page of the range is refused
    have hlt := hin.lt (endPage + 1) fun q _ hlt hrefused => by
      rw [checkAccess_mono hidle (by omega) hend] at hrefused
      cases hrefused
    omega

lemma not_authenticate_of_password (h : s.supports .passwordAuth = true) :
    s.supports .authenticate = false := by
  revert h
  unfold MfUltralightListener.supports
  cases s.data.type <;> decide

lemma validatePages_low {type : MfUltralightType} {sector startPage q : Nat}
    (hpassword : mfUltralightSupportFeature (mfUltralightGetFeatureSupportSet type)
      .passwordAuth = true)
    (hstart : startPage ≤ 4) (hq : q ≤ 4)
    (h : mfUltralightI2CValidatePages startPage startPage type sector = true) :
    mfUltralightI2CValidatePages q q type sector = true := by
  rcases sector with _ | _ | _ | _ | sector
  · cases type <;> first
      | exact absurd hpassword (by decide)
      | (simp [mfUltralightI2CValidatePages, mfUltralightI2CPageValidatorForSector0] at h ⊢ <;>
          omega)
  · cases type <;> first
      | exact absurd hpassword (by decide)
      | (simp [mfUltralightI2CValidatePages, mfUltralightI2CPageValidatorForSector1] at h ⊢ <;>
          omega)
  · simp [mfUltralightI2CValidatePages] at h
  · simp [mfUltralightI2CValidatePages, mfUltralightI2CPageValidatorForSector3] at h
    omega
  · simp [mfUltralightI2CValidatePages] at h

lemma rollover_source (hidle : s.authState ≠ .success) {startPage : Nat}
    (hleak : s.RolloverLeaks startPage) (hpasses : mfUltralightRefusesRead s startPage = false) :
    some s.data.auth0 ∈ mfUltralightReadSources s startPage (mfUltralightIsI2CTag s.data.type)
        4 0 0 ∧ ¬ s.Readable s.data.auth0 ∧ s.data.auth0 < 4 := by
  obtain ⟨hpassword, hprot, hbefore, hnear⟩ := hleak
  have hauth := not_authenticate_of_password hpassword
  simp only [mfUltralightRefusesRead, Bool.or_eq_false_iff, Bool.not_eq_false'] at hpasses
  obtain ⟨hrange, hstart⟩ := hpasses
  have hrefused : ∀ q, s.data.auth0 ≤ q → mfUltralightListenerCheckAccess s q .read = false := by
    intro q hq
    rw [Bool.eq_false_iff]
    exact fun hfree => (checkAccess_password hidle hauth hpassword q).mp hfree ⟨hq, hprot⟩
  have hnonzero : ∀ q ≤ 4, ¬ (mfUltralightIsI2CTag s.data.type &&
      !mfUltralightI2CValidatePages q q s.data.type s.sector ||
      mfUltralightIsPagePwdOrPack s.data.type q) = true := by
    intro q hq
    rw [not_pwdOrPack_of_lt (by omega)]
    by_cases hi2c : mfUltralightIsI2CTag s.data.type = true
    · rw [if_pos hi2c, Bool.not_eq_false'] at hrange
      rw [validatePages_low hpassword (by omega) hq hrange]
      simp
    · simp [hi2c]
  have hone : ∀ q ≤ 4, ∀ r, s.data.auth0 ≤ q →
      mfUltralightReadSource s q (mfUltralightIsI2CTag s.data.type) r = some r := by
    intro q hq r hle
    rw [mfUltralightReadSource, if_neg (hnonzero q hq), if_neg (by simp [hrefused q hle])]
  have hnext : ∀ q r, s.data.auth0 ≤ q → mfUltralightNextRollover s q r = r + 1 := by
    intro q r hle
    rw [mfUltralightNextRollover, if_neg (by simp [hrefused q hle])]
  refine ⟨?_, fun hreadable => by simpa [hrefused _ (Nat.le_refl _)] using hreadable.1, by omega⟩
  have hfirst : mfUltralightNextRollover s (startPage + 0) 0 = 0 := by
    rw [mfUltralightNextRollover, Nat.add_zero, if_pos hstart]
  have hsources : mfUltralightReadSources s startPage (mfUltralightIsI2CTag s.data.type) 4 0 0 =
      [some ((if mfUltralightIsI2CTag s.data.type then
          mfUltralightI2CProvidePageByRequested startPage s.data.type s.sector
        else startPage) % s.data.pagesTotal), some 0, some 1, some 2] := by
    have hzero : mfUltralightReadSource s (startPage + 0) (mfUltralightIsI2CTag s.data.type) 0 =
        some ((if mfUltralightIsI2CTag s.data.type then
          mfUltralightI2CProvidePageByRequested startPage s.data.type s.sector
        else startPage) % s.data.pagesTotal) := by
      rw [mfUltralightReadSource, Nat.add_zero, if_neg (hnonzero startPage (by omega)),
        if_pos hstart]
    simp only [mfUltralightReadSources, hzero, hfirst, Nat.zero_add, Nat.reduceAdd,
      hone (startPage + 1) (by omega) 0 (by omega), hnext (startPage + 1) 0 (by omega),
      hone (startPage + 2) (by omega) 1 (by omega), hnext (startPage + 2) 1 (by omega),
      hone (startPage + 3) (by omega) 2 (by omega)]
  rw [hsources]
  have hcases : s.data.auth0 = 1 ∨ s.data.auth0 = 2 := by omega
  rcases hcases with h | h <;> simp [h]

lemma sector_source {startPage pageCnt : Nat} (hleak : s.SectorLeaks startPage pageCnt) :
    ∃ p, some p ∈ mfUltralightReadSources s startPage (mfUltralightIsI2CTag s.data.type)
        pageCnt 0 0 ∧ ¬ s.Readable p ∧ s.supports .asciiMirror = false := by
  obtain ⟨htype, hsector, q, hge, hlt, hmax, hreadable, hunreadable⟩ := hleak
  have hi2c : mfUltralightIsI2CTag s.data.type = true := by rw [htype]; rfl
  refine ⟨_, readSources_mapped hge hlt ⟨fun _ => ?_, hreadable.2, hreadable.1, ?_⟩, hunreadable,
    ?_⟩
  · rw [htype, hsector]
    simp [mfUltralightI2CValidatePages, mfUltralightI2CPageValidatorForSector1, hmax]
  · rw [if_pos hi2c, htype, hsector]
    rfl
  · rw [MfUltralightListener.supports, htype]
    decide

/-- The loop that places the mirror ends. -/
def MfUltralightListener.MirrorEnds (s : MfUltralightListener) : Prop :=
  s.supports .asciiMirror = true → mfUltralightMirrorCheckBoundaries s ≠ none

lemma configPage_of_mirror (h : s.supports .asciiMirror = true) :
    mfUltralightGetConfigPageNum s.data.type ≠ 0 := by
  revert h
  unfold MfUltralightListener.supports
  cases s.data.type <;> decide

lemma mirrorReadPrepare_ok_iff (startPage : Nat) :
    (∃ t, mfUltralightMirrorReadPrepare startPage s = .ok t) ↔ s.MirrorEnds := by
  rw [mfUltralightMirrorReadPrepare, mfUltralightMirrorEnabled, MfUltralightListener.MirrorEnds]
  by_cases hmirror : s.supports .asciiMirror = true
  · rw [if_pos (by simp [hmirror, configPage_of_mirror hmirror])]
    cases hbounds : mfUltralightMirrorCheckBoundaries s with
    | none => simp [hmirror]
    | some result =>
      obtain ⟨enabled, actualMode⟩ := result
      cases enabled <;> simp
  · rw [if_neg (by simp [hmirror])]
    simp [hmirror]

lemma refusesRead_of_alike (h : s.Alike m) (startPage : Nat) :
    mfUltralightRefusesRead (s.withPage m) startPage = mfUltralightRefusesRead s startPage := by
  simp only [mfUltralightRefusesRead, checkAccess_of_alike h]
  rfl

lemma refusesFastRead_of_alike (h : s.Alike m) (startPage endPage : Nat) :
    mfUltralightRefusesFastRead (s.withPage m) startPage endPage =
      mfUltralightRefusesFastRead s startPage endPage := by
  simp only [mfUltralightRefusesFastRead, checkAccess_of_alike h]
  rfl

/-- Whether what is sent of a range discloses nothing, by the pages that it is answered from. -/
lemma sendPages_noLeak_iff {startPage pageCnt : Nat} {leaks : Prop}
    (hsafe : ¬ leaks → s.SourcesReadable startPage pageCnt)
    (hleak : leaks → ∃ p, some p ∈ mfUltralightReadSources s startPage
        (mfUltralightIsI2CTag s.data.type) pageCnt 0 0 ∧ ¬ s.Readable p ∧
        (s.supports .asciiMirror = true → p < 4)) :
    (∀ m, s.Alike m → mfUltralightSendPages (s.withPage m) startPage pageCnt =
        mfUltralightSendPages s startPage pageCnt) ↔ (s.MirrorEnds → ¬ leaks) := by
  constructor
  · intro hsame hends hleaks
    obtain ⟨p, hsource, hunreadable, hmirror⟩ := hleak hleaks
    exact sendPages_leaks ((mirrorReadPrepare_ok_iff startPage).mpr hends) hsource hmirror
      hunreadable (hsame _ (changedAt_alike hunreadable))
  · intro hcond m halike
    by_cases hends : s.MirrorEnds
    · exact sendPages_of_alike halike (hsafe (hcond hends))
    · -- neither of the two is answered
      rw [mfUltralightSendPages, mfUltralightSendPages, mirrorReadPrepare_of_alike halike]
      cases hprepare : mfUltralightMirrorReadPrepare startPage s with
      | error fault => rfl
      | ok t => exact absurd ((mirrorReadPrepare_ok_iff startPage).mp ⟨t, hprepare⟩) hends

/-- Whether a read discloses nothing of the pages that may not be read. -/
lemma readPage_noLeak_iff (hidle : s.authState ≠ .success) (buffer : BitBuffer) :
    s.NoLeak mfUltralightListenerReadPageHandler buffer ↔
      (mfUltralightRefusesRead s (buffer.getByte 1).toNat = false → s.MirrorEnds →
        ¬ (s.RolloverLeaks (buffer.getByte 1).toNat ∨
          s.SectorLeaks (buffer.getByte 1).toNat 4)) := by
  have hseen := fun s : MfUltralightListener => readPageHandler_seen (s := s) buffer
  generalize (buffer.getByte 1).toNat = startPage at hseen ⊢
  have hsame : s.NoLeak mfUltralightListenerReadPageHandler buffer ↔
      (mfUltralightRefusesRead s startPage = false → ∀ m, s.Alike m →
        mfUltralightSendPages (s.withPage m) startPage 4 =
          mfUltralightSendPages s startPage 4) := by
    rw [MfUltralightListener.NoLeak]
    constructor
    · intro hnoLeak hpasses m halike
      simpa [hseen, refusesRead_of_alike halike, hpasses] using hnoLeak m halike
    · intro hsame m halike
      rw [hseen, hseen, refusesRead_of_alike halike]
      split
      · rfl
      next hpasses => exact hsame (Bool.eq_false_iff.mpr hpasses) m halike
  rw [hsame]
  refine forall_congr' fun hpasses => sendPages_noLeak_iff ?_ ?_
  · intro hleaks
    obtain ⟨hrollover, hsector⟩ := not_or.mp hleaks
    exact read_sourcesReadable hidle hpasses hrollover hsector
  · rintro (hleak | hleak)
    · obtain ⟨hsource, hunreadable, hlt⟩ := rollover_source hidle hleak hpasses
      exact ⟨_, hsource, hunreadable, fun _ => hlt⟩
    · obtain ⟨p, hsource, hunreadable, hmirror⟩ := sector_source hleak
      exact ⟨p, hsource, hunreadable, fun hen => by rw [hmirror] at hen; cases hen⟩

lemma fastRead_noLeak_iff (hidle : s.authState ≠ .success) (buffer : BitBuffer) :
    s.NoLeak mfUltralightListenerFastReadHandler buffer ↔
      (s.supports .fastRead = true →
        mfUltralightRefusesFastRead s (buffer.getByte 1).toNat (buffer.getByte 2).toNat = false →
        (buffer.getByte 2).toNat + 1 - (buffer.getByte 1).toNat ≤ 64 →
        ¬ s.SectorLeaks (buffer.getByte 1).toNat
          ((buffer.getByte 2).toNat + 1 - (buffer.getByte 1).toNat)) := by
  have hseen := fun s : MfUltralightListener => fastReadHandler_seen (s := s) buffer
  have hbyte := (buffer.getByte 2).isLt
  generalize (buffer.getByte 1).toNat = startPage at hseen ⊢
  generalize (buffer.getByte 2).toNat = endPage at hseen hbyte ⊢
  have hsame : s.NoLeak mfUltralightListenerFastReadHandler buffer ↔
      (s.supports .fastRead = true → mfUltralightRefusesFastRead s startPage endPage = false →
        endPage + 1 - startPage ≤ 64 → ∀ m, s.Alike m →
        mfUltralightSendPages (s.withPage m) startPage (endPage + 1 - startPage) =
          mfUltralightSendPages s startPage (endPage + 1 - startPage)) := by
    rw [MfUltralightListener.NoLeak]
    have hcnt : mfUltralightRefusesFastRead s startPage endPage = false →
        startPage ≤ endPage := by
      intro hpasses
      simp only [mfUltralightRefusesFastRead, Bool.or_eq_false_iff] at hpasses
      exact Nat.le_of_not_lt (of_decide_eq_false hpasses.1.1.2)
    constructor
    · intro hnoLeak hfast hpasses hfits m halike
      have hle := hcnt hpasses
      have heq : (endPage - startPage + 1) % 256 = endPage + 1 - startPage := by omega
      simpa [hseen, refusesFastRead_of_alike halike, supports_withPage, hfast, hpasses, heq,
        Nat.not_lt_of_le hfits] using hnoLeak m halike
    · intro hsame m halike
      rw [hseen, hseen, refusesFastRead_of_alike halike, supports_withPage]
      split
      · rfl
      next hfast =>
      split
      · rfl
      next hpasses =>
      split
      · rfl
      next hfits =>
      have hpasses := Bool.eq_false_iff.mpr hpasses
      have hle := hcnt hpasses
      by_cases hall : endPage + 1 - startPage = 256
      · -- the count of all pages is 0 in a byte
        have hzero : (endPage - startPage + 1) % 256 = 0 := by omega
        rw [hzero]
        exact sendPages_of_alike halike fun p hp => by simp [mfUltralightReadSources] at hp
      · have heq : (endPage - startPage + 1) % 256 = endPage + 1 - startPage := by omega
        rw [heq] at hfits ⊢
        exact hsame (by simpa using hfast) hpasses (Nat.le_of_not_lt hfits) m halike
  rw [hsame]
  refine forall_congr' fun hfast => forall_congr' fun hpasses => forall_congr' fun hfits => ?_
  have hmirror : ∀ hleak : s.SectorLeaks startPage (endPage + 1 - startPage),
      s.supports .asciiMirror = false := fun hleak => (sector_source hleak).choose_spec.2.2
  refine (sendPages_noLeak_iff (fun hsector => fastRead_sourcesReadable hidle hpasses ?_ hsector)
    ?_).trans ⟨fun h hleak => h ?_ hleak, fun h _ => h⟩
  · have hle : startPage ≤ endPage := by
      simp only [mfUltralightRefusesFastRead, Bool.or_eq_false_iff] at hpasses
      exact Nat.le_of_not_lt (of_decide_eq_false hpasses.1.1.2)
    omega
  · intro hleak
    obtain ⟨p, hsource, hunreadable, -⟩ := sector_source hleak
    exact ⟨p, hsource, hunreadable, fun hen => by rw [hmirror hleak] at hen; cases hen⟩
  · intro hen
    rw [hmirror hleak] at hen
    cases hen

/-! ### The claim -/

/-- Whether the answers to a reader that has not authenticated itself disclose nothing of the
pages that may not be read, the password and PACK among them. -/
theorem reads_noLeak_iff (s : MfUltralightListener) (hidle : s.authState ≠ .success)
    (buffer : BitBuffer) :
    (s.NoLeak mfUltralightListenerReadPageHandler buffer ↔
      (mfUltralightRefusesRead s (buffer.getByte 1).toNat = false → s.MirrorEnds →
        ¬ (s.RolloverLeaks (buffer.getByte 1).toNat ∨
          s.SectorLeaks (buffer.getByte 1).toNat 4))) ∧
    (s.NoLeak mfUltralightListenerFastReadHandler buffer ↔
      (s.supports .fastRead = true →
        mfUltralightRefusesFastRead s (buffer.getByte 1).toNat (buffer.getByte 2).toNat = false →
        (buffer.getByte 2).toNat + 1 - (buffer.getByte 1).toNat ≤ 64 →
        ¬ s.SectorLeaks (buffer.getByte 1).toNat
          ((buffer.getByte 2).toNat + 1 - (buffer.getByte 1).toNat))) :=
  ⟨readPage_noLeak_iff hidle buffer, fastRead_noLeak_iff hidle buffer⟩

/-- An Ultralight EV1 that is protected against reading from page 1 on. -/
def mfUltralightProtected : MfUltralightListener :=
  mfUltralightListenerAlloc { mfUltralightBlank .ul11 with
    page := fun a => if a = 67 then 1 else if a = 68 then 0x80 else 0 }

/-- An Ultralight EV1 that is protected against reading from page 8 on. -/
def mfUltralightHalfProtected : MfUltralightListener :=
  mfUltralightListenerAlloc { mfUltralightBlank .ul11 with
    page := fun a => if a = 67 then 8 else if a = 68 then 0x80 else BitVec.ofNat 8 a }

/-- Of that tag the pages 4 to 7 are answered to a READ and to a FAST_READ, and nothing is told of the
others. -/
theorem reads_noLeak_iff_answered :
    (mfUltralightRefusesRead mfUltralightHalfProtected 4 = false ∧
      mfUltralightHalfProtected.NoLeak mfUltralightListenerReadPageHandler
        (.ofBytes [0x30, 4])) ∧
    mfUltralightRefusesFastRead mfUltralightHalfProtected 4 7 = false ∧
      mfUltralightHalfProtected.NoLeak mfUltralightListenerFastReadHandler
        (.ofBytes [0x3A, 4, 7]) := by
  have hsector : ¬ mfUltralightHalfProtected.SectorLeaks 4 4 := fun hleaks =>
    absurd hleaks.1 (by decide)
  refine ⟨⟨by decide, (reads_noLeak_iff mfUltralightHalfProtected (by decide) _).1.mpr ?_⟩,
    by decide, (reads_noLeak_iff mfUltralightHalfProtected (by decide) _).2.mpr ?_⟩
  · rintro - - (hrollover | hleaks)
    · exact absurd hrollover.2.2.2 (by decide)
    · exact hsector hleaks
  · exact fun _ _ _ => hsector

/-- A read of page 0 of that tag discloses page 1. -/
theorem readPage_leaks :
    ¬∀ (s : MfUltralightListener) (buffer : BitBuffer), s.authState ≠ .success →
      s.NoLeak mfUltralightListenerReadPageHandler buffer ∧
        s.NoLeak mfUltralightListenerFastReadHandler buffer := by
  intro h
  have hnoLeak := (h mfUltralightProtected (.ofBytes [0x30, 0]) (by decide)).1
  have hpasses : mfUltralightRefusesRead mfUltralightProtected 0 = false := by decide
  have hends : mfUltralightProtected.MirrorEnds := fun hen => absurd hen (by decide)
  have hleaks : mfUltralightProtected.RolloverLeaks 0 := by
    refine ⟨?_, ?_, ?_, ?_⟩ <;> decide
  exact (readPage_noLeak_iff (by decide) _).mp hnoLeak hpasses hends (.inl hleaks)

end FlipperZero
