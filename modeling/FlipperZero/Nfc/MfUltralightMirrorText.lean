import FlipperZero.Nfc.MfUltralightMirrorLoop
import FlipperZero.Nfc.MfUltralightReadLeak

/-!
# The mirror in the answers to READ and FAST_READ

The listener copies the text of the mirror into the pages of an answer. The place in the text is
computed from the first page of the answer and carried on from page to page. The bytes of a page do
not depend on where the answer begins: up to the end of the text, the place that is carried is the
one that belongs to the page.
-/

namespace FlipperZero

open Foundation

variable {s : MfUltralightListener} {mode : MfUltralightMirrorConf}

/-! ### The text on the pages -/

/-- Where the text of a mode begins in `ascii_mirror_data`. -/
def mfUltralightMirrorStart (mode : MfUltralightMirrorConf) : Nat := if mode = .counter then 15 else 0

/-- A byte of a page with the character of the text that falls on it; the text begins at the page
and the byte that the configuration names. -/
def MfUltralightListener.mirroredByte (s : MfUltralightListener) (mode : MfUltralightMirrorConf)
    (page i : Nat) : BitVec 8 :=
  let first := 4 * s.data.mirrorPage + s.data.mirrorByte
  if first ≤ 4 * page + i ∧ 4 * page + i - first < mfUltralightGetMirrorDataSize mode then
    s.mirror.asciiMirrorData (mfUltralightMirrorStart mode + (4 * page + i - first))
  else s.data.pageBytes page i

lemma mfUltralightListenerAlloc_showsText {data : MfUltralightData} (huid : data.uid.length = 7) :
    (mfUltralightListenerAlloc data).ShowsText := by
  refine mirrorFormatCounter_showsText huid fun k hk => ?_
  refine if_pos ⟨Nat.zero_le k, ?_⟩
  simp only [List.length_append, length_flatMap_formatHexByte, List.length_singleton]
  omega

/-- In every state that a reader can bring an NTAG21x to, the text is made of its UID and its
counter. -/
theorem mfUltralightListener_showsText (des3 : Des3) {data : MfUltralightData}
    (htag : data.type.IsNtag21x) (huid : data.uid.length = 7)
    (hrun : (mfUltralightSystem des3).Reaches (fun _ _ => True) (mfUltralightListenerAlloc data) s) :
    s.ShowsText := by
  have hplain : data.type ≠ .mfulC ∧
      mfUltralightSupportFeature (mfUltralightGetFeatureSupportSet data.type) .incCounter = false := by
    rcases htag with h | h | h <;> rw [h] <;> decide
  refine (hrun.invariant (I := fun s => s.data.type = data.type ∧ s.ShowsText)
    ⟨rfl, mfUltralightListenerAlloc_showsText huid⟩ ?_).2
  rintro t u event ⟨htype, hshows⟩ - hstep
  obtain ⟨⟨command, v⟩, hr, rfl⟩ := Option.map_eq_some_iff.mp hstep
  cases hcall : mfUltralightListenerRun des3 t event with
  | error fault =>
    rw [hcall] at hr
    cases hr
  | ok r =>
    rw [hcall] at hr
    obtain rfl := Option.some.inj hr
    obtain ⟨-, htype', htext⟩ := mfUltralightListenerRun_authStep (htype ▸ hplain.1) hcall
    exact ⟨htype'.trans htype, htext (by rw [MfUltralightListener.supports, htype, hplain.2]) hshows⟩

/-! ### Where the mirror is -/

/-- The pages behind the first one that the text may need, as
`mf_ultralight_mirror_check_boundaries` has them. -/
def mfUltralightMirrorPages : MfUltralightMirrorConf → Nat
  | .none       => 0
  | .uid        => 3
  | .counter    => 1
  | .uidCounter => 5

/-- The mirror that the configuration bytes set: its pages lie behind the first ones and end with the
last user page, where the text may begin at one of the first three bytes. The UID stands in for the
UID and the counter when these do not fit, and may then begin at any byte. -/
@[mk_iff]
structure MfUltralightListener.MirrorConfigured (s : MfUltralightListener)
    (mode : MfUltralightMirrorConf) : Prop where
  mode_ne : mode ≠ .none
  mode_eq : mode =
    if mfUltralightMirrorCheckMode s.data s.authState = .uidCounter ∧
        mfUltralightLastUserPage s.data.type < s.data.mirrorPage + 5 then .uid
    else mfUltralightMirrorCheckMode s.data s.authState
  low : 3 < s.data.mirrorPage
  high : s.data.mirrorPage + mfUltralightMirrorPages mode ≤ mfUltralightLastUserPage s.data.type
  byte_le : s.data.mirrorPage + mfUltralightMirrorPages mode = mfUltralightLastUserPage s.data.type →
    mfUltralightMirrorCheckMode s.data s.authState ≠ .uidCounter → s.data.mirrorByte ≤ 2

lemma mirrorByte_lt (data : MfUltralightData) : data.mirrorByte < 4 := Nat.mod_lt _ (by decide)

lemma mirrorCheckBoundaries_iff :
    mfUltralightMirrorCheckBoundaries s = some (true, mode) ↔ s.MirrorConfigured mode := by
  have hbyte := mirrorByte_lt s.data
  have hloop : mfUltralightMirrorCheckBoundaries s =
      loop (mfUltralightMirrorCheckRound s.data (mfUltralightLastUserPage s.data.type)) 3
        ⟨mfUltralightMirrorCheckMode s.data s.authState, 2, false, s.mirror.actualMode⟩ := rfl
  rw [hloop, MfUltralightListener.mirrorConfigured_iff]
  generalize mfUltralightLastUserPage s.data.type = lastUserPage
  generalize mfUltralightMirrorCheckMode s.data s.authState = checked
  generalize s.mirror.actualMode = actualMode
  generalize s.data = data at hbyte ⊢
  -- The first round, and the one of the UID in place of the UID and the counter.
  cases checked <;> simp only [loop, mfUltralightMirrorCheckRound, reduceCtorEq, if_false, if_true,
    false_and, true_and]
  case none => grind
  all_goals split_ifs <;> simp only [mfUltralightMirrorPages] <;> grind

instance : Decidable (s.MirrorConfigured mode) := decidable_of_iff _ mirrorCheckBoundaries_iff

/-- The mirror fits between the first pages and the last user page. -/
structure MfUltralightListener.MirrorPlaced (s : MfUltralightListener)
    (mode : MfUltralightMirrorConf) : Prop where
  low : 3 < s.data.mirrorPage
  high : s.data.mirrorPage + mfUltralightMirrorPages mode ≤ mfUltralightLastUserPage s.data.type
  mode_ne : mode ≠ .none
  counter_iff : mode = .counter ↔ s.data.mirrorConf = .counter

lemma MfUltralightListener.MirrorConfigured.placed (h : s.MirrorConfigured mode) :
    s.MirrorPlaced mode := by
  refine ⟨h.low, h.high, h.mode_ne, ?_⟩
  have hmode := h.mode_eq
  have hne := h.mode_ne
  rw [mfUltralightMirrorCheckMode] at hmode
  cases hconf : s.data.mirrorConf <;> grind

/-! ### The place in the text -/

/-- The place in the text that belongs to a page. -/
def MfUltralightListener.mirrorOffset (s : MfUltralightListener) (mode : MfUltralightMirrorConf)
    (page : Nat) : Nat :=
  if s.data.mirrorPage < page then
    mfUltralightMirrorStart mode + (4 * (page - s.data.mirrorPage) - s.data.mirrorByte)
  else mfUltralightMirrorStart mode

lemma asciiEnd_eq (hmode : mode ≠ .none) :
    mfUltralightGetAsciiEnd mode =
      mfUltralightMirrorStart mode + mfUltralightGetMirrorDataSize mode := by
  cases mode <;> first | rfl | exact absurd rfl hmode

/-- The loop over a page copies up to the end of the page or of the text. -/
lemma mirrorCopy_eq (source : Memory) (asciiEnd : Nat) {n j : Nat} (offset : Nat) (dest : Memory)
    (hn : 4 ≤ n + j) (hj : j ≤ 4) :
    (mfUltralightMirrorCopy source asciiEnd n j offset dest).2 =
        (if offset < asciiEnd then min (offset + (4 - j)) asciiEnd else offset) ∧
      ∀ k < 4, (mfUltralightMirrorCopy source asciiEnd n j offset dest).1 k =
        if j ≤ k ∧ offset + (k - j) < asciiEnd then source (offset + (k - j)) else dest k := by
  induction n generalizing j offset dest with
  | zero =>
    obtain rfl : j = 4 := by omega
    refine ⟨?_, fun k hk => ?_⟩
    · simp only [mfUltralightMirrorCopy]
      split <;> omega
    · rw [mfUltralightMirrorCopy, if_neg (by omega)]
  | succ n ih =>
    rw [mfUltralightMirrorCopy]
    by_cases hround : j < 4 ∧ offset < asciiEnd
    · rw [if_pos hround]
      obtain ⟨hoffset, hbytes⟩ := ih (j := j + 1) (offset + 1)
        (Function.update dest j (source offset)) (by omega) (by omega)
      refine ⟨?_, fun k hk => ?_⟩
      · rw [hoffset]
        split_ifs <;> omega
      · rw [hbytes k hk]
        by_cases hkj : k = j
        · subst hkj
          rw [if_neg (by omega), if_pos (by omega), Function.update_self, Nat.sub_self,
            Nat.add_zero]
        · rw [Function.update_of_ne hkj]
          by_cases hlt : j < k
          · rw [show offset + 1 + (k - (j + 1)) = offset + (k - j) by omega]
            split_ifs <;> first | rfl | omega
          · rw [if_neg (by omega), if_neg (by omega)]
    · rw [if_neg hround]
      refine ⟨?_, fun k hk => ?_⟩
      · split_ifs <;> omega
      · rw [if_neg (by omega)]

/-! ### The mirror while an answer is filled -/

def MfUltralightListener.mirrorLastPage (s : MfUltralightListener) (mode : MfUltralightMirrorConf) :
    Nat :=
  s.data.mirrorPage + 1 + mfUltralightGetMirrorDataSize mode / 4

/-- The state of the mirror before a page: up to the end of the text, the place is the one of the
page. -/
structure MfUltralightListener.MirrorAt (s : MfUltralightListener) (mode : MfUltralightMirrorConf)
    (page : Nat) (mirror : MfUltralightMirrorMode) : Prop where
  enabled : mirror.enabled = true
  data : mirror.asciiMirrorData = s.mirror.asciiMirrorData
  asciiEnd : mirror.asciiEnd = mfUltralightGetAsciiEnd mode
  lastPage : mirror.mirrorLastPage = s.mirrorLastPage mode
  offset : page ≤ s.mirrorLastPage mode →
    min mirror.asciiOffset (mfUltralightGetAsciiEnd mode) =
      min (s.mirrorOffset mode page) (mfUltralightGetAsciiEnd mode)

lemma ntag21x_pages {type : MfUltralightType} (htag : type.IsNtag21x) :
    mfUltralightLastUserPage type < 226 ∧
      mfUltralightGetPwdPageNum type = mfUltralightLastUserPage type + 4 := by
  rcases htag with h | h | h <;> rw [h] <;> decide

lemma mirrorDataSize_le (mode : MfUltralightMirrorConf) :
    mfUltralightGetMirrorDataSize mode / 4 = mfUltralightMirrorPages mode ∧
      mfUltralightGetMirrorDataSize mode ≤ 4 * mfUltralightMirrorPages mode + 2 ∧
      mfUltralightMirrorPages mode ≤ 5 ∧ mfUltralightMirrorStart mode ≤ 15 := by
  cases mode <;> decide

namespace MfUltralightListener

lemma mirrorAt_prepare (htag : s.data.type.IsNtag21x)
    (hconfig : s.MirrorConfigured mode) {startPage : Nat}
    (hstart : startPage < 256) :
    ∃ mirror, mfUltralightMirrorReadPrepare startPage s = .ok (s.withMirror mirror) ∧
      s.MirrorAt mode startPage mirror := by
  have hplaced := hconfig.placed
  have hbounds := mirrorCheckBoundaries_iff.mpr hconfig
  have hsupport : s.supports .asciiMirror = true := by
    rw [supports]
    rcases htag with h | h | h <;> rw [h] <;> decide
  have hpage : mfUltralightGetConfigPageNum s.data.type ≠ 0 := by
    rcases htag with h | h | h <;> rw [h] <;> decide
  have hlast := (ntag21x_pages htag).1
  obtain ⟨hsize, -, hpages, hstart15⟩ := mirrorDataSize_le mode
  have hhigh := hplaced.high
  have hbyte := mirrorByte_lt s.data
  refine ⟨{ s.mirror with
      actualMode := mode
      enabled := true
      asciiOffset := mfUltralightGetAsciiOffset (startPage % 256) s.data
      asciiEnd := mfUltralightGetAsciiEnd mode
      mirrorLastPage := (s.data.mirrorPage + 1 + mfUltralightGetMirrorDataSize mode / 4) % 256 },
    ?_, rfl, rfl, rfl, ?_, fun hle => ?_⟩
  · rw [mfUltralightMirrorReadPrepare, mfUltralightMirrorEnabled,
      if_pos (by simp [hsupport, hpage]), hbounds]
    rfl
  · exact Nat.mod_eq_of_lt (by omega)
  · dsimp only
    congr 1
    have hfirst : (if s.data.mirrorConf = .counter then 15 else 0) = mfUltralightMirrorStart mode :=
      if_congr hplaced.counter_iff.symm rfl rfl
    rw [mfUltralightGetAsciiOffset, mirrorOffset, hfirst, Nat.mod_eq_of_lt hstart]
    rw [mirrorLastPage] at hle
    split
    · rw [Nat.mod_eq_of_lt (by omega)]
      omega
    · rfl

/-- A page in front of the text, or behind it, is answered as it is. -/
lemma mirroredByte_outside {page i : Nat} (hi : i < 4)
    (h : page < s.data.mirrorPage ∨ s.mirrorLastPage mode < page) :
    s.mirroredByte mode page i = s.data.pageBytes page i := by
  rw [mirroredByte]
  obtain ⟨hsize, hle, -, -⟩ := mirrorDataSize_le mode
  have hbyte := mirrorByte_lt s.data
  rw [mirrorLastPage] at h
  exact if_neg (by omega)

lemma mirrorAt_page (hplaced : s.MirrorPlaced mode) {page : Nat}
    {mirror : MfUltralightMirrorMode} (h : s.MirrorAt mode page mirror) :
    (∀ k < 4, (mfUltralightMirrorReadHandler page (s.data.pageBytes page)
      (s.withMirror mirror)).1 k = s.mirroredByte mode page k) ∧
    ∃ mirror', (mfUltralightMirrorReadHandler page (s.data.pageBytes page)
      (s.withMirror mirror)).2 = s.withMirror mirror' ∧ s.MirrorAt mode (page + 1) mirror' := by
  obtain ⟨henabled, hdata, hend, hlast, hoffset⟩ := h
  obtain ⟨hsize, hle, -, -⟩ := mirrorDataSize_le mode
  have hbyte := mirrorByte_lt s.data
  have hasciiEnd := asciiEnd_eq hplaced.mode_ne
  rw [mfUltralightMirrorReadHandler]
  by_cases hin : s.data.mirrorPage ≤ page ∧ page ≤ s.mirrorLastPage mode
  · rw [if_pos ⟨henabled, hin.1, hin.2.trans_eq hlast.symm⟩]
    have hmin := hoffset hin.2
    rw [mirrorOffset] at hmin
    obtain ⟨hcopied, hbytes⟩ := mirrorCopy_eq mirror.asciiMirrorData mirror.asciiEnd
      mirror.asciiOffset (s.data.pageBytes page)
      (Nat.le_add_right 4 (mfUltralightGetByteOffset page s.data))
      (by rw [mfUltralightGetByteOffset]; split <;> omega)
    rw [hend] at hcopied hbytes
    rw [mfUltralightGetByteOffset] at hcopied hbytes
    refine ⟨fun k hk => ?_, { mirror with asciiOffset := (mfUltralightMirrorCopy
      mirror.asciiMirrorData mirror.asciiEnd 4 (mfUltralightGetByteOffset page s.data)
      mirror.asciiOffset (s.data.pageBytes page)).2 }, rfl, henabled, hdata, hend, hlast,
      fun _ => ?_⟩
    · dsimp only [withMirror]
      rw [mfUltralightGetByteOffset, hend, hbytes k hk, mirroredByte, hdata]
      -- up to the end of the text, the carried place is the one of the page
      have hcond : ((if s.data.mirrorPage < page then 0 else s.data.mirrorByte) ≤ k ∧
          mirror.asciiOffset + (k - if s.data.mirrorPage < page then 0 else s.data.mirrorByte) <
            mfUltralightGetAsciiEnd mode) ↔
          (4 * s.data.mirrorPage + s.data.mirrorByte ≤ 4 * page + k ∧
            4 * page + k - (4 * s.data.mirrorPage + s.data.mirrorByte) <
              mfUltralightGetMirrorDataSize mode) := by
        split_ifs at hmin ⊢ <;> omega
      rw [if_congr hcond rfl rfl]
      split
      · rename_i hchar
        congr 1
        have hoffset' := hcond.mpr hchar
        split_ifs at hmin hoffset' ⊢ <;> omega
      · rfl
    · dsimp only
      rw [mfUltralightGetByteOffset, hend, hcopied, mirrorOffset]
      split_ifs at hmin ⊢ <;> omega
  · rw [if_neg (by
      rintro ⟨-, hlow, hhigh⟩
      exact hin ⟨hlow, hhigh.trans_eq hlast⟩)]
    refine ⟨fun k hk => (mirroredByte_outside hk (by omega)).symm, mirror, rfl, henabled,
      hdata, hend, hlast, fun hnext => ?_⟩
    have hlow : page < s.data.mirrorPage := by omega
    rw [hoffset (by omega), mirrorOffset, mirrorOffset, if_neg (by omega), if_neg (by omega)]

/-- A page in front of the text is left to the card, whatever the state of the mirror is. -/
lemma mirrorReadHandler_low (mirror : MfUltralightMirrorMode) {page : Nat} (dest : Memory)
    (h : page < s.data.mirrorPage) :
    mfUltralightMirrorReadHandler page dest (s.withMirror mirror) = (dest, s.withMirror mirror) := by
  rw [mfUltralightMirrorReadHandler, if_neg]
  rintro ⟨-, hle, -⟩
  exact absurd h (Nat.not_lt_of_le hle)

/-- Any page leaves the state of the mirror but for the place in the text. -/
lemma mirrorAt_any {page page' : Nat} {mirror : MfUltralightMirrorMode}
    (h : s.MirrorAt mode page mirror) (hbehind : s.mirrorLastPage mode < page') (q : Nat)
    (dest : Memory) :
    ∃ mirror', (mfUltralightMirrorReadHandler q dest (s.withMirror mirror)).2 =
      s.withMirror mirror' ∧ s.MirrorAt mode page' mirror' := by
  rw [mfUltralightMirrorReadHandler]
  split
  · exact ⟨{ mirror with asciiOffset := _ }, rfl, h.enabled, h.data, h.asciiEnd, h.lastPage,
      fun hle => absurd hle (Nat.not_le_of_lt hbehind)⟩
  · exact ⟨mirror, rfl, h.enabled, h.data, h.asciiEnd, h.lastPage,
      fun hle => absurd hle (Nat.not_le_of_lt hbehind)⟩

lemma checkAccess_mono (htag : s.data.type.IsNtag21x) {page page' : Nat} (hle : page ≤ page')
    (h : mfUltralightListenerCheckAccess s page' .read = true) :
    mfUltralightListenerCheckAccess s page .read = true := by
  have hauth : s.supports .authenticate = false ∧ s.supports .passwordAuth = true := by
    rw [supports, supports]
    rcases htag with h | h | h <;> rw [h] <;> decide
  rw [mfUltralightListenerCheckAccess, hauth.1, hauth.2] at h ⊢
  simp only [Bool.false_eq_true, if_false, if_true, mfUltralightCommonCheckAccess] at h ⊢
  by_cases hlocked : s.authState ≠ .success ∧ s.data.auth0 ≤ page' ∧
      (s.data.prot || decide (MfUltralightListenerAccessType.read = .write)) = true
  · rw [if_pos hlocked] at h
    exact absurd h Bool.false_ne_true
  · rw [if_neg fun hpage => hlocked ⟨hpage.1, hpage.2.1.trans hle, hpage.2.2⟩]
    simp

/-- What a place of an answer is filled from, when it may be read. -/
lemma readSource_of_access {page rollover : Nat}
    (hread : mfUltralightListenerCheckAccess s page .read = true)
    (hpwd : mfUltralightIsPagePwdOrPack s.data.type page = false) :
    mfUltralightReadSource s page false rollover = some (page % s.data.pagesTotal) := by
  rw [mfUltralightReadSource, hpwd, hread]
  rfl

lemma mirrorLastPage_lt (htag : s.data.type.IsNtag21x) (hplaced : s.MirrorPlaced mode) :
    s.mirrorLastPage mode < 228 := by
  obtain ⟨hsize, -, -, -⟩ := mirrorDataSize_le mode
  have hlast := (ntag21x_pages htag).1
  have hhigh := hplaced.high
  rw [mirrorLastPage]
  omega

lemma not_pwdOrPack (htag : s.data.type.IsNtag21x) (hplaced : s.MirrorPlaced mode) {page : Nat}
    (h : page ≤ s.mirrorLastPage mode) :
    mfUltralightIsPagePwdOrPack s.data.type page = false := by
  obtain ⟨hsize, -, -, -⟩ := mirrorDataSize_le mode
  have hpwd := (ntag21x_pages htag).2
  have hhigh := hplaced.high
  rw [mirrorLastPage] at h
  rw [mfUltralightIsPagePwdOrPack, hpwd]
  simp only [Bool.and_eq_false_imp, Bool.or_eq_false_iff, beq_eq_false_iff_ne]
  exact fun _ => ⟨by omega, by omega⟩

lemma mirrorAt_next (htag : s.data.type.IsNtag21x) (hplaced : s.MirrorPlaced mode)
    {page : Nat} (rollover : Nat) {mirror : MfUltralightMirrorMode}
    (hmirror : page < s.data.pagesTotal → s.MirrorAt mode page mirror)
    (hread : mfUltralightListenerCheckAccess s page .read = true) :
    ∃ mirror', (match mfUltralightReadSource s page false rollover with
      | none   => s.withMirror mirror
      | some q => (mfUltralightMirrorReadHandler (q % 256) (s.data.pageBytes q)
          (s.withMirror mirror)).2) = s.withMirror mirror' ∧
      (page + 1 < s.data.pagesTotal → s.MirrorAt mode (page + 1) mirror') := by
  by_cases hlt : page + 1 < s.data.pagesTotal
  · have hat := hmirror (Nat.lt_of_succ_lt hlt)
    by_cases hin : page + 1 ≤ s.mirrorLastPage mode
    · rw [readSource_of_access hread (not_pwdOrPack htag hplaced (by omega)),
        Nat.mod_eq_of_lt (Nat.lt_of_succ_lt hlt)]
      dsimp only
      rw [Nat.mod_eq_of_lt (by have := mirrorLastPage_lt htag hplaced; omega)]
      obtain ⟨mirror', hstate, hnext⟩ := (mirrorAt_page hplaced hat).2
      exact ⟨mirror', hstate, fun _ => hnext⟩
    · cases mfUltralightReadSource s page false rollover with
      | none   =>
        exact ⟨mirror, rfl, fun _ => ⟨hat.enabled, hat.data, hat.asciiEnd, hat.lastPage,
          fun hle => absurd hle hin⟩⟩
      | some q =>
        obtain ⟨mirror', hstate, hnext⟩ := mirrorAt_any hat (Nat.lt_of_not_le hin) (q % 256)
          (s.data.pageBytes q)
        exact ⟨mirror', hstate, fun _ => hnext⟩
  · cases mfUltralightReadSource s page false rollover with
    | none   => exact ⟨mirror, rfl, fun h => absurd h hlt⟩
    | some q =>
      obtain ⟨mirror', -, hstate⟩ := mirrorReadHandler_state s mirror (q % 256)
        (s.data.pageBytes q)
      exact ⟨mirror', hstate, fun h => absurd h hlt⟩

lemma mirrorAt_place (htag : s.data.type.IsNtag21x) (hplaced : s.MirrorPlaced mode) {page : Nat}
    {mirror : MfUltralightMirrorMode}
    (hmirror : page < s.data.pagesTotal → s.MirrorAt mode page mirror) (hsmall : page < 259)
    (hwrap : s.data.pagesTotal ≤ page → page % s.data.pagesTotal < 4) {k : Nat} (hk : k < 4) :
    (mfUltralightMirrorReadHandler (page % s.data.pagesTotal % 256)
      (s.data.pageBytes (page % s.data.pagesTotal)) (s.withMirror mirror)).1 k =
        s.mirroredByte mode (page % s.data.pagesTotal) k := by
  have hlow := hplaced.low
  have hlast := mirrorLastPage_lt htag hplaced
  rcases Nat.lt_or_ge page s.data.pagesTotal with hlt | hge
  · rw [Nat.mod_eq_of_lt hlt]
    by_cases hbyte : page < 256
    · rw [Nat.mod_eq_of_lt hbyte]
      exact (mirrorAt_page hplaced (hmirror hlt)).1 k hk
    · rw [mirrorReadHandler_low mirror _ (show page % 256 < s.data.mirrorPage by omega)]
      exact (mirroredByte_outside hk (.inr (by omega))).symm
  · have hfirst := hwrap hge
    rw [Nat.mod_eq_of_lt (show page % s.data.pagesTotal < 256 by omega),
      mirrorReadHandler_low mirror _ (show page % s.data.pagesTotal < s.data.mirrorPage by omega)]
    exact (mirroredByte_outside hk (.inl (by omega))).symm

/-- The bytes of a page in an answer: those of the card with the characters that fall on them. -/
lemma readPages_mirrored (htag : s.data.type.IsNtag21x) (hplaced : s.MirrorPlaced mode)
    (startPage : Nat) {n i j : Nat} (rollover : Nat) {mirror : MfUltralightMirrorMode}
    (hmirror : startPage + i < s.data.pagesTotal → s.MirrorAt mode (startPage + i) mirror)
    (hj : j < n) (hread : mfUltralightListenerCheckAccess s (startPage + (i + j)) .read = true)
    (hpwd : mfUltralightIsPagePwdOrPack s.data.type (startPage + (i + j)) = false)
    (hsmall : startPage + (i + j) < 259)
    (hwrap : s.data.pagesTotal ≤ startPage + (i + j) →
      (startPage + (i + j)) % s.data.pagesTotal < 4) :
    ∀ k < 4, (mfUltralightListenerReadPages startPage false n i rollover
      (s.withMirror mirror)).1[4 * j + k]? =
        some (s.mirroredByte mode ((startPage + (i + j)) % s.data.pagesTotal) k) := by
  induction n generalizing i rollover j mirror with
  | zero => exact absurd hj (Nat.not_lt_zero j)
  | succ n ih =>
    intro k hk
    rw [readPages_succ, show mfUltralightReadSource (s.withMirror mirror) (startPage + i) false
      rollover = mfUltralightReadSource s (startPage + i) false rollover from rfl]
    cases j with
    | zero =>
      rw [Nat.add_zero] at hread hpwd hsmall hwrap ⊢
      rw [readSource_of_access hread hpwd]
      dsimp only
      rw [List.getElem?_append_left (by simp; omega), List.getElem?_map,
        List.getElem?_range (by omega), Nat.mul_zero, Nat.zero_add, Option.map_some]
      exact congrArg some (mirrorAt_place htag hplaced hmirror hsmall hwrap hk)
    | succ j =>
      have hmono := checkAccess_mono htag (show startPage + i ≤ startPage + (i + (j + 1)) by omega)
        hread
      obtain ⟨mirror', hstate, hmirror'⟩ := mirrorAt_next htag hplaced rollover hmirror hmono
      have hplace : i + (j + 1) = i + 1 + j := by omega
      rw [hplace] at hread hpwd hsmall hwrap ⊢
      have hrest (rollover : Nat) := ih rollover hmirror' (by omega) hread hpwd hsmall
        hwrap k hk
      cases hsource : mfUltralightReadSource s (startPage + i) false rollover with
      | none =>
        rw [hsource] at hstate
        dsimp only at hstate ⊢
        rw [hstate, List.getElem?_append_right (by simp; omega),
          show 4 * (j + 1) + k - List.length [(0 : BitVec 8), 0, 0, 0] = 4 * j + k by
            simp only [List.length_cons, List.length_nil]; omega]
        exact hrest _
      | some q =>
        rw [hsource] at hstate
        dsimp only at hstate ⊢
        rw [show (s.withMirror mirror).data = s.data from rfl, hstate,
          List.getElem?_append_right (by simp; omega), List.length_map, List.length_range,
          show 4 * (j + 1) + k - 4 = 4 * j + k by omega]
        exact hrest _

/-! ### Windows -/

/-- An answer to a READ or a FAST_READ, from its first page on. -/
inductive Window (s : MfUltralightListener) : Nat → Nat → List (BitVec 8) → Prop where
  | read (buffer : BitBuffer) (answer : List (BitVec 8))
      (h : (mfUltralightListenerReadPageHandler s buffer).seen =
        .ok (.processed, s.sent ++ [.standardFrame answer])) :
      s.Window (buffer.getByte 1).toNat 4 answer
  | fastRead (buffer : BitBuffer) (answer : List (BitVec 8))
      (h : (mfUltralightListenerFastReadHandler s buffer).seen =
        .ok (.processed, s.sent ++ [.standardFrame answer])) :
      s.Window (buffer.getByte 1).toNat
        (((buffer.getByte 2).toNat - (buffer.getByte 1).toNat + 1) % 256) answer

/-- A place of a window at which there is a page. -/
def Contains (s : MfUltralightListener) (startPage pageCnt j page : Nat) : Prop :=
  j < pageCnt ∧ (startPage + j) % s.data.pagesTotal = page

instance (s : MfUltralightListener) (startPage pageCnt j page : Nat) :
    Decidable (s.Contains startPage pageCnt j page) :=
  inferInstanceAs (Decidable (_ ∧ _))

/-- The page at the place may be read, and is none of the password. -/
def Open (s : MfUltralightListener) (startPage j : Nat) : Prop :=
  mfUltralightListenerCheckAccess s (startPage + j) .read = true ∧
    mfUltralightIsPagePwdOrPack s.data.type (startPage + j) = false

instance (s : MfUltralightListener) (startPage j : Nat) : Decidable (s.Open startPage j) :=
  inferInstanceAs (Decidable (_ ∧ _))

lemma Window.pages {startPage pageCnt : Nat} {answer : List (BitVec 8)}
    (htag : s.data.type.IsNtag21x) (h : s.Window startPage pageCnt answer) :
    startPage < 256 ∧ mfUltralightSendPages s startPage pageCnt =
        .ok (.processed, s.sent ++ [.standardFrame answer]) ∧
      ∀ j < pageCnt, startPage + j < 259 ∧
        (s.data.pagesTotal ≤ startPage + j → (startPage + j) % s.data.pagesTotal < 4) := by
  have hi2c : mfUltralightIsI2CTag s.data.type = false := by
    rcases htag with h | h | h <;> rw [h] <;> decide
  cases h with
  | read buffer answer h =>
    rw [readPageHandler_seen] at h
    have hlt := (buffer.getByte 1).isLt
    by_cases hrefuses : mfUltralightRefusesRead s (buffer.getByte 1).toNat = true
    · rw [if_pos hrefuses] at h
      cases h
    · rw [if_neg hrefuses] at h
      refine ⟨hlt, h, fun j hj => ⟨by omega, fun hwrap => ?_⟩⟩
      simp only [mfUltralightRefusesRead, hi2c, Bool.or_eq_true, not_or, decide_eq_true_eq,
        Bool.false_eq_true, if_false] at hrefuses
      by_cases hfew : s.data.pagesTotal < 4
      · rcases Nat.eq_zero_or_pos s.data.pagesTotal with hzero | hpos
        · rw [hzero, Nat.mod_zero]
          omega
        · exact (Nat.mod_lt _ hpos).trans hfew
      · rw [Nat.mod_eq_sub_mod hwrap, Nat.mod_eq_of_lt (by omega)]
        omega
  | fastRead buffer answer h =>
    rw [fastReadHandler_seen] at h
    have hlt := (buffer.getByte 1).isLt
    have hlt' := (buffer.getByte 2).isLt
    by_cases hsupport : (!s.supports .fastRead) = true
    · rw [if_pos hsupport] at h
      cases h
    rw [if_neg hsupport] at h
    by_cases hrefuses : mfUltralightRefusesFastRead s (buffer.getByte 1).toNat
        (buffer.getByte 2).toNat = true
    · rw [if_pos hrefuses] at h
      cases h
    rw [if_neg hrefuses] at h
    split at h
    · cases h
    simp only [mfUltralightRefusesFastRead, hi2c, Bool.or_eq_true, not_or, decide_eq_true_eq,
      Bool.false_eq_true, if_false] at hrefuses
    refine ⟨hlt, h, fun j hj => ?_⟩
    have hcnt : j < (buffer.getByte 2).toNat - (buffer.getByte 1).toNat + 1 :=
      hj.trans_le (Nat.mod_le _ _)
    exact ⟨by omega, fun hwrap => by omega⟩

lemma Window.byte (htag : s.data.type.IsNtag21x)
    (hconfig : s.MirrorConfigured mode) {startPage pageCnt j : Nat}
    {answer : List (BitVec 8)} (h : s.Window startPage pageCnt answer) (hj : j < pageCnt)
    (hopen : s.Open startPage j) : ∀ k < 4, answer[4 * j + k]? =
      some (s.mirroredByte mode ((startPage + j) % s.data.pagesTotal) k) := by
  have hi2c : mfUltralightIsI2CTag s.data.type = false := by
    rcases htag with h | h | h <;> rw [h] <;> decide
  obtain ⟨hstart, hsend, hpages⟩ := h.pages htag
  obtain ⟨mirror, hprepare, hmirror⟩ := mirrorAt_prepare htag hconfig hstart
  obtain ⟨hsmall, hwrap⟩ := hpages j hj
  rw [mfUltralightSendPages, hprepare, hi2c] at hsend
  have hanswer : (mfUltralightListenerReadPages startPage false pageCnt 0 0
      (s.withMirror mirror)).1 = answer := by
    simpa [Except.map] using hsend
  rw [← hanswer]
  have hbytes := readPages_mirrored htag hconfig.placed startPage (n := pageCnt) (i := 0)
    (j := j) 0 (fun _ => hmirror)
  simp only [Nat.zero_add] at hbytes
  exact hbytes hj hopen.1 hopen.2 hsmall hwrap

end MfUltralightListener

/-- Two windows that contain a page carry the same bytes for it: those of the page with the
characters of the mirror that fall on it. -/
theorem mfUltralightMirror_windows (s : MfUltralightListener) (htag : s.data.type.IsNtag21x)
    {mode : MfUltralightMirrorConf} (hconfig : s.MirrorConfigured mode)
    {startPage pageCnt startPage' pageCnt' : Nat} {answer answer' : List (BitVec 8)}
    (h : s.Window startPage pageCnt answer) (h' : s.Window startPage' pageCnt' answer')
    {j j' page : Nat} (hpage : s.Contains startPage pageCnt j page)
    (hpage' : s.Contains startPage' pageCnt' j' page) (hopen : s.Open startPage j)
    (hopen' : s.Open startPage' j') : ∀ k < 4,
      answer[4 * j + k]? = some (s.mirroredByte mode page k) ∧
        answer'[4 * j' + k]? = some (s.mirroredByte mode page k) := by
  obtain ⟨hj, rfl⟩ := hpage
  obtain ⟨hj', heq⟩ := hpage'
  intro k hk
  refine ⟨h.byte htag hconfig hj hopen k hk, ?_⟩
  rw [h'.byte htag hconfig hj' hopen' k hk, heq]

/-- An NTAG213 with the mirror of the UID on page 5 and a password of which a byte is set. -/
def mfUltralightPasswordSet : MfUltralightData :=
  { mfUltralightBlank .ntag213 with
    page := Function.update (Function.update (Function.update (fun _ => 0)
      (4 * 41) 0x40) (4 * 41 + 2) 5) (4 * 43) 0xFF }

/-- A byte of page 6 in the answers to a READ from page 4 and a FAST_READ from page 6. -/
theorem mfUltralightMirror_windows_uid :
    [0#8, 0, 0, 0, 0x30, 0x34, 0x30, 0x30, 0x30, 0x30, 0x30, 0x30, 0x30, 0x30, 0x30, 0x30][4 * 2 + 1]?
        = some ((mfUltralightListenerAlloc mfUltralightPasswordSet).mirroredByte .uid 6 1) ∧
      [0x30#8, 0x30, 0x30, 0x30, 0x30, 0x30, 0x30, 0x30, 0x30, 0x30, 0, 0][4 * 0 + 1]? =
        some ((mfUltralightListenerAlloc mfUltralightPasswordSet).mirroredByte .uid 6 1) :=
  mfUltralightMirror_windows (mfUltralightListenerAlloc mfUltralightPasswordSet) (.inl rfl)
    (by decide +kernel) (.read (.ofBytes [0x30, 4]) _ (by decide +kernel))
    (.fastRead (.ofBytes [0x3A, 6, 8]) _ (by decide +kernel)) (by decide +kernel)
    (by decide +kernel) (by decide +kernel) (by decide +kernel) 1 (by decide)

/-- The page of the password is answered with zeros. -/
theorem mfUltralightMirror_windows_password :
    ¬∀ (s : MfUltralightListener) (mode : MfUltralightMirrorConf), s.data.type.IsNtag21x →
      s.MirrorConfigured mode →
        ∀ (startPage pageCnt : Nat) (answer : List (BitVec 8)), s.Window startPage pageCnt answer →
          ∀ j page, s.Contains startPage pageCnt j page → ∀ k < 4,
            answer[4 * j + k]? = some (s.mirroredByte mode page k) := by
  intro h
  have hpage := h (mfUltralightListenerAlloc mfUltralightPasswordSet) .uid (.inl rfl)
    (by decide +kernel) _ 4 (List.replicate 16 0)
    (.read (.ofBytes [0x30, 43]) _ (by decide +kernel)) 0 43 (by decide +kernel) 0 (by decide)
  exact absurd hpage (by decide +kernel)

end FlipperZero
