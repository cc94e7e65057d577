import FlipperZero.Dolphin.DolphinState
import Mathlib.Tactic.SplitIfs

/-!
# What a deed can add

An invariant of the service: no app has been granted more than its limit of the day, and
`butthurt` is in its range. What a deed adds is the least of three amounts, except that the rest of
an app's allowance passes for a negative number when it does not fit an `int8_t`.
-/

namespace FlipperZero.Dolphin

open Foundation

/-! ### The distance to the next level -/

lemma dolphinLevels_sorted : dolphinLevels.Pairwise (· ≤ ·) := by decide +kernel

lemma dolphinLevels_next {icounter level : UInt32} (hmem : level ∈ dolphinLevels)
    (hle : icounter ≤ level) :
    ∃ next, dolphinLevels[dolphinGetLevel icounter - 1]? = some next ∧ icounter ≤ next ∧
      next ≤ level := by
  obtain ⟨j, hj, rfl⟩ := List.getElem_of_mem hmem
  have hidx : dolphinLevels.findIdx (icounter ≤ ·) ≤ j := by
    by_contra hlt
    exact absurd hle (by simpa using List.not_of_lt_findIdx (Nat.lt_of_not_le hlt))
  have hlt := Nat.lt_of_le_of_lt hidx hj
  refine ⟨dolphinLevels[dolphinLevels.findIdx (icounter ≤ ·)], ?_, ?_, ?_⟩
  · rw [dolphinGetLevel, Nat.add_sub_cancel, List.getElem?_eq_getElem hlt]
  · simpa using List.findIdx_getElem (w := hlt)
  · rcases Nat.eq_or_lt_of_le hidx with heq | hbefore
    · simp only [heq, UInt32.le_refl]
    · exact List.pairwise_iff_getElem.mp dolphinLevels_sorted _ _ hlt hj hbefore

lemma dolphinStateXpToLevelup_le {icounter level : UInt32} (hmem : level ∈ dolphinLevels)
    (hle : icounter ≤ level) :
    (dolphinStateXpToLevelup icounter).toNat ≤ level.toNat - icounter.toNat := by
  obtain ⟨next, hnext, hfrom, hto⟩ := dolphinLevels_next hmem hle
  rw [dolphinStateXpToLevelup, hnext]
  simp only [UInt32.toNat_sub_of_le _ _ hfrom]
  exact Nat.sub_le_sub_right (UInt32.le_iff_toNat_le.mp hto) _

lemma dolphinLevels_ge {icounter level : UInt32}
    (h : dolphinLevels[dolphinGetLevel icounter - 1]? = some level) : icounter ≤ level := by
  obtain ⟨hlt, rfl⟩ := List.getElem?_eq_some_iff.mp h
  rw [dolphinGetLevel, Nat.add_sub_cancel] at hlt
  simpa [dolphinGetLevel] using List.findIdx_getElem (w := hlt)

/-- The threshold that has been passed is below the counter: the subtraction does not wrap. -/
lemma dolphinStateXpAboveLastLevelup_le (icounter : UInt32) :
    dolphinStateXpAboveLastLevelup icounter ≤ icounter := by
  dsimp only [dolphinStateXpAboveLastLevelup]
  split_ifs with hlevel
  · split
    · rename_i level hlast
      obtain ⟨hlt, rfl⟩ := List.getElem?_eq_some_iff.mp hlast
      simp only [dolphinGetLevel, Nat.add_sub_cancel] at hlevel hlt ⊢
      have hpassed := List.not_of_lt_findIdx (Nat.sub_lt hlevel Nat.one_pos)
      have hle := UInt32.le_of_lt (UInt32.not_le.mp (by simpa using hpassed))
      rw [UInt32.le_iff_toNat_le, UInt32.toNat_sub_of_le _ _ hle]
      exact Nat.sub_le _ _
    · exact UInt32.le_refl icounter
  · exact UInt32.le_refl icounter

/-! ### The amount granted -/

/-- What is left of the allowance of an app for the day. -/
def dailyRest (s : DolphinState) (app : DolphinApp) : Nat :=
  (dolphinDeedGetAppLimit app).toNat - (s.icounterDailyLimit app).toNat

lemma deedWeight_fits {s : DolphinState} {deed : DolphinDeed}
    (hle : s.icounterDailyLimit (dolphinDeedGetApp deed) ≤
      dolphinDeedGetAppLimit (dolphinDeedGetApp deed))
    (hfits : dailyRest s (dolphinDeedGetApp deed) ≤ 127) :
    (deedWeight s deed).toNat =
      min (dolphinDeedGetWeight deed).toNat (dailyRest s (dolphinDeedGetApp deed)) := by
  have hle := UInt8.le_iff_toNat_le.mp hle
  have hweight := (dolphinDeedGetWeight deed).toNat_lt
  unfold dailyRest at hfits ⊢
  have hstored : toInt8 ((dolphinDeedGetAppLimit (dolphinDeedGetApp deed)).toNat -
      (s.icounterDailyLimit (dolphinDeedGetApp deed)).toNat) =
      (dolphinDeedGetAppLimit (dolphinDeedGetApp deed)).toNat -
        (s.icounterDailyLimit (dolphinDeedGetApp deed)).toNat := by
    rw [toInt8, if_pos (by omega)]
    omega
  rw [deedWeight, hstored, toUInt8, UInt8.toNat_ofNat']
  simp only [clamp]
  omega

/-- Where it does not fit, the whole rest of the allowance is the weight. -/
lemma deedWeight_wraps {s : DolphinState} {deed : DolphinDeed}
    (hle : s.icounterDailyLimit (dolphinDeedGetApp deed) ≤
      dolphinDeedGetAppLimit (dolphinDeedGetApp deed))
    (hwraps : 127 < dailyRest s (dolphinDeedGetApp deed)) :
    (deedWeight s deed).toNat = dailyRest s (dolphinDeedGetApp deed) := by
  have hle := UInt8.le_iff_toNat_le.mp hle
  have hlimit := (dolphinDeedGetAppLimit (dolphinDeedGetApp deed)).toNat_lt
  unfold dailyRest at hwraps ⊢
  have hstored : toInt8 ((dolphinDeedGetAppLimit (dolphinDeedGetApp deed)).toNat -
      (s.icounterDailyLimit (dolphinDeedGetApp deed)).toNat) =
      (dolphinDeedGetAppLimit (dolphinDeedGetApp deed)).toNat -
        (s.icounterDailyLimit (dolphinDeedGetApp deed)).toNat - 256 := by
    rw [toInt8, if_neg (by omega)]
    omega
  rw [deedWeight, hstored, toUInt8, UInt8.toNat_ofNat']
  simp only [clamp]
  omega

/-- What a deed is granted: no more than the distance to the next level and its weight. -/
def dolphinGrant (s : DolphinState) (deed : DolphinDeed) : UInt8 :=
  (min (dolphinStateXpToLevelup s.icounter) (deedWeight s deed).toUInt32).toUInt8

lemma dolphinGrant_toNat (s : DolphinState) (deed : DolphinDeed) :
    (dolphinGrant s deed).toNat =
      min (dolphinStateXpToLevelup s.icounter).toNat (deedWeight s deed).toNat := by
  have hlt := (deedWeight s deed).toNat_lt
  have hmin : min (dolphinStateXpToLevelup s.icounter) (deedWeight s deed).toUInt32 =
      if dolphinStateXpToLevelup s.icounter ≤ (deedWeight s deed).toUInt32 then
        dolphinStateXpToLevelup s.icounter else (deedWeight s deed).toUInt32 := rfl
  rw [dolphinGrant, hmin]
  split_ifs with h
  · have hnat := UInt32.le_iff_toNat_le.mp h
    rw [UInt8.toNat_toUInt32] at hnat
    rw [UInt32.toNat_toUInt8]
    omega
  · have hnat := UInt32.lt_iff_toNat_lt.mp (UInt32.not_le.mp h)
    rw [UInt8.toNat_toUInt32] at hnat
    rw [UInt32.toNat_toUInt8, UInt8.toNat_toUInt32]
    omega

lemma dolphinStateGrant_state (s : DolphinState) (deed : DolphinDeed) :
    (dolphinStateGrant s deed).2 = { s with
      icounter := s.icounter + (dolphinGrant s deed).toUInt32
      icounterDailyLimit := Function.update s.icounterDailyLimit (dolphinDeedGetApp deed)
        (s.icounterDailyLimit (dolphinDeedGetApp deed) + dolphinGrant s deed) } := by
  by_cases hxp : dolphinStateXpToLevelup s.icounter = 0
  · have hzero : dolphinGrant s deed = 0 := by
      rw [← UInt8.toNat_inj, dolphinGrant_toNat, hxp]
      simp
    simp [dolphinStateGrant, hxp, hzero]
  · simp [dolphinStateGrant, hxp, dolphinGrant]

lemma dolphinStateOnDeed_icounter (s : DolphinState) (deed : DolphinDeed) (now : UInt64) :
    (dolphinStateOnDeed s deed now).icounter = s.icounter + (dolphinGrant s deed).toUInt32 := by
  simp [dolphinStateOnDeed, dolphinStateCalm, dolphinStateGrant_state]

lemma dolphinStateOnDeed_daily (s : DolphinState) (deed : DolphinDeed) (now : UInt64) :
    (dolphinStateOnDeed s deed now).icounterDailyLimit =
      Function.update s.icounterDailyLimit (dolphinDeedGetApp deed)
        (s.icounterDailyLimit (dolphinDeedGetApp deed) + dolphinGrant s deed) := by
  simp [dolphinStateOnDeed, dolphinStateCalm, dolphinStateGrant_state]

/-! ### The invariant -/

/-- No app has been granted more than its limit of the day, and `butthurt` is in its range. -/
structure WithinLimits (s : DolphinState) : Prop where
  daily : ∀ app, s.icounterDailyLimit app ≤ dolphinDeedGetAppLimit app
  ge    : butthurtMin ≤ s.butthurt
  le    : s.butthurt ≤ butthurtMax

lemma clamp_bounds {x upper lower : Int} (h : lower ≤ upper) :
    lower ≤ clamp x upper lower ∧ clamp x upper lower ≤ upper := by
  simp only [clamp]
  omega

lemma deedWeight_le {s : DolphinState} (h : WithinLimits s) (deed : DolphinDeed) :
    (deedWeight s deed).toNat ≤ dailyRest s (dolphinDeedGetApp deed) := by
  by_cases hfits : dailyRest s (dolphinDeedGetApp deed) ≤ 127
  · rw [deedWeight_fits (h.daily _) hfits]
    exact Nat.min_le_right _ _
  · exact Nat.le_of_eq (deedWeight_wraps (h.daily _) (Nat.lt_of_not_le hfits))

lemma daily_add_grant {s : DolphinState} (h : WithinLimits s) (deed : DolphinDeed) :
    (s.icounterDailyLimit (dolphinDeedGetApp deed) + dolphinGrant s deed).toNat =
      (s.icounterDailyLimit (dolphinDeedGetApp deed)).toNat + (dolphinGrant s deed).toNat ∧
    s.icounterDailyLimit (dolphinDeedGetApp deed) + dolphinGrant s deed ≤
      dolphinDeedGetAppLimit (dolphinDeedGetApp deed) := by
  have hle := UInt8.le_iff_toNat_le.mp (h.daily (dolphinDeedGetApp deed))
  have hlimit := (dolphinDeedGetAppLimit (dolphinDeedGetApp deed)).toNat_lt
  have hweight := deedWeight_le h deed
  have hgrant := dolphinGrant_toNat s deed
  unfold dailyRest at hweight
  have hsum : (s.icounterDailyLimit (dolphinDeedGetApp deed) + dolphinGrant s deed).toNat =
      (s.icounterDailyLimit (dolphinDeedGetApp deed)).toNat + (dolphinGrant s deed).toNat := by
    rw [UInt8.toNat_add]
    omega
  refine ⟨hsum, ?_⟩
  rw [UInt8.le_iff_toNat_le, hsum]
  omega

lemma dolphinStateOnDeed_butthurt (s : DolphinState) (deed : DolphinDeed) (now : UInt64) :
    butthurtMin ≤ (dolphinStateOnDeed s deed now).butthurt ∧
      (dolphinStateOnDeed s deed now).butthurt ≤ butthurtMax := by
  simp only [dolphinStateOnDeed, dolphinStateCalm]
  generalize (dolphinStateGrant s deed).2.butthurt - _ = n
  by_cases hhappy : clamp n butthurtMax butthurtMin ≥ 7
  · rw [if_pos hhappy]
    decide
  · rw [if_neg hhappy]
    exact clamp_bounds (by decide)

lemma dolphin_withinLimits {s : DolphinState} (h : WithinLimits s) (e : DolphinEvent) :
    WithinLimits (dolphin.step s e).2 := by
  obtain ⟨hdaily, hge, hle⟩ := h
  cases e with
  | deed deed now =>
    refine ⟨fun app => ?_, (dolphinStateOnDeed_butthurt s deed now).1,
      (dolphinStateOnDeed_butthurt s deed now).2⟩
    simp only [dolphin, dolphinStateOnDeed_daily]
    by_cases happ : app = dolphinDeedGetApp deed
    · subst happ
      rw [Function.update_self]
      exact (daily_add_grant ⟨hdaily, hge, hle⟩ deed).2
    · rw [Function.update_of_ne happ]
      exact hdaily app
  | testDeed deed now =>
    cases deed with
    | testLeft =>
      have hclamp := clamp_bounds (x := s.butthurt + 1) (show butthurtMin ≤ butthurtMax by decide)
      exact ⟨hdaily, hclamp.1, hclamp.2⟩
    | testRight => exact ⟨hdaily, Int.le_refl 0, show (0 : Int) ≤ 14 by decide⟩
  | level => exact ⟨hdaily, hge, hle⟩
  | butthurt now =>
    simp only [dolphin, dolphinStateButthurted]
    split
    · exact ⟨hdaily, by simp only; omega, by simp only; omega⟩
    · exact ⟨hdaily, hge, hle⟩
  | clearLimits => exact ⟨fun app => UInt8.zero_le, hge, hle⟩

/-! ### Every run -/

/-- What a step of the service does to its counters: a deed adds at most its weight, no threshold
is stepped over, and the minuends of the subtractions are large enough. -/
structure StepMeets (s : DolphinState) (e : DolphinEvent) : Prop where
  weight    : ∀ deed now, e = .deed deed now →
    ((dolphin.step s e).2.icounter - s.icounter).toNat ≤ (dolphinDeedGetWeight deed).toNat
  threshold : ∀ level ∈ dolphinLevels, s.icounter < level →
    (dolphin.step s e).2.icounter ≤ level
  allowance : ∀ app, s.icounterDailyLimit app ≤ dolphinDeedGetAppLimit app
  distance  : ∀ level, dolphinLevels[dolphinGetLevel s.icounter - 1]? = some level →
    s.icounter ≤ level
  above     : dolphinStateXpAboveLastLevelup s.icounter ≤ s.icounter
  decrement : ∀ now, e = .testDeed .testLeft now →
    (dolphin.step s e).2.icounter ≤ s.icounter
  butthurt  : (butthurtMin ≤ s.butthurt ∧ s.butthurt ≤ butthurtMax) ∧
    butthurtMin ≤ (dolphin.step s e).2.butthurt ∧ (dolphin.step s e).2.butthurt ≤ butthurtMax

/-- What is left of the allowance of the deed's app fits an `int8_t`, or the next level is not
farther away than the weight of the deed. -/
def CapFits (s : DolphinState) : DolphinEvent → Prop
  | .deed deed _ => dailyRest s (dolphinDeedGetApp deed) ≤ 127 ∨
      dolphinStateXpToLevelup s.icounter ≤ (dolphinDeedGetWeight deed).toUInt32
  | _            => True

lemma dolphinGrant_le_iff {s : DolphinState} (h : WithinLimits s) (deed : DolphinDeed) :
    (dolphinGrant s deed).toNat ≤ (dolphinDeedGetWeight deed).toNat ↔
      dailyRest s (dolphinDeedGetApp deed) ≤ 127 ∨
        dolphinStateXpToLevelup s.icounter ≤ (dolphinDeedGetWeight deed).toUInt32 := by
  have hweight : (dolphinDeedGetWeight deed).toNat ≤ 20 := by cases deed <;> decide
  rw [dolphinGrant_toNat, UInt32.le_iff_toNat_le, UInt8.toNat_toUInt32]
  by_cases hfits : dailyRest s (dolphinDeedGetApp deed) ≤ 127
  · have hcap := deedWeight_fits (h.daily _) hfits
    exact iff_of_true (by omega) (.inl hfits)
  · have hrest := deedWeight_wraps (h.daily _) (Nat.lt_of_not_le hfits)
    omega

/-- A grant does not lead past a threshold that the counter is below. -/
lemma icounter_le_level {s : DolphinState} (deed : DolphinDeed) {level : UInt32}
    (hmem : level ∈ dolphinLevels) (hlt : s.icounter < level) :
    s.icounter + (dolphinGrant s deed).toUInt32 ≤ level := by
  have hxp := dolphinStateXpToLevelup_le hmem (UInt32.le_of_lt hlt)
  have hgrant := dolphinGrant_toNat s deed
  have hnat := UInt32.lt_iff_toNat_lt.mp hlt
  have hlevel := level.toNat_lt
  rw [UInt32.le_iff_toNat_le, UInt32.toNat_add, UInt8.toNat_toUInt32]
  omega

lemma succ_le_of_lt {n level : UInt32} (h : n < level) : n + 1 ≤ level := by
  have hnat := UInt32.lt_iff_toNat_lt.mp h
  have hlevel := level.toNat_lt
  rw [UInt32.le_iff_toNat_le, UInt32.toNat_add]
  simp only [UInt32.reduceToNat]
  omega

lemma pred_le (n : UInt32) : (if n > 0 then n - 1 else n) ≤ n := by
  split_ifs with h
  · have hone : 1 ≤ n := by
      rw [UInt32.le_iff_toNat_le]
      exact UInt32.lt_iff_toNat_lt.mp h
    rw [UInt32.le_iff_toNat_le, UInt32.toNat_sub_of_le _ _ hone]
    exact Nat.sub_le _ _
  · exact UInt32.le_refl n

lemma dolphin_threshold (s : DolphinState) (e : DolphinEvent) {level : UInt32}
    (hmem : level ∈ dolphinLevels) (hlt : s.icounter < level) :
    (dolphin.step s e).2.icounter ≤ level := by
  cases e with
  | deed deed now =>
    simp only [dolphin, dolphinStateOnDeed_icounter]
    exact icounter_le_level deed hmem hlt
  | testDeed deed now =>
    cases deed with
    | testLeft => exact UInt32.le_trans (pred_le s.icounter) (UInt32.le_of_lt hlt)
    | testRight =>
      simp only [dolphin, dolphinStateOnTestDeed]
      split_ifs
      · exact succ_le_of_lt hlt
      · exact UInt32.le_of_lt hlt
  | level => exact succ_le_of_lt hlt
  | butthurt now =>
    simp only [dolphin, dolphinStateButthurted]
    split_ifs <;> exact UInt32.le_of_lt hlt
  | clearLimits => exact UInt32.le_of_lt hlt

lemma dolphin_added (s : DolphinState) (deed : DolphinDeed) (now : UInt64) :
    ((dolphin.step s (.deed deed now)).2.icounter - s.icounter).toNat =
      (dolphinGrant s deed).toNat := by
  simp only [dolphin, dolphinStateOnDeed_icounter]
  rw [UInt32.add_comm, UInt32.add_sub_cancel, UInt8.toNat_toUInt32]

lemma stepMeets_iff {s : DolphinState} (h : WithinLimits s) (e : DolphinEvent) :
    StepMeets s e ↔ CapFits s e := by
  constructor
  · intro hmeets
    cases e with
    | deed deed now =>
      have hweight := hmeets.weight deed now rfl
      rw [dolphin_added] at hweight
      exact (dolphinGrant_le_iff h deed).mp hweight
    | _ => trivial
  · intro hfits
    have hnext := dolphin_withinLimits h e
    refine ⟨?_, fun level => dolphin_threshold s e, h.daily, fun level => dolphinLevels_ge,
      dolphinStateXpAboveLastLevelup_le s.icounter, ?_, ⟨h.ge, h.le⟩, hnext.ge, hnext.le⟩
    · intro deed now heq
      subst heq
      rw [dolphin_added]
      exact (dolphinGrant_le_iff h deed).mpr hfits
    · intro now heq
      subst heq
      exact pred_le s.icounter

/-- What the deeds of an app have added since the last clear, when it was `granted` before. -/
def grantedSinceClear (app : DolphinApp) : Nat → DolphinState → List DolphinEvent → Nat
  | granted, _, [] => granted
  | granted, s, e :: es =>
    let s' := (dolphin.step s e).2
    match e with
    | .deed deed _  =>
      grantedSinceClear app
        (if dolphinDeedGetApp deed = app then granted + (s'.icounter - s.icounter).toNat
          else granted) s' es
    | .clearLimits => grantedSinceClear app 0 s' es
    | _            => grantedSinceClear app granted s' es

lemma grantedSinceClear_eq (app : DolphinApp) {s : DolphinState} (h : WithinLimits s)
    (es : List DolphinEvent) :
    grantedSinceClear app (s.icounterDailyLimit app).toNat s es =
      ((dolphin.final s es).icounterDailyLimit app).toNat := by
  induction es generalizing s with
  | nil => rfl
  | cons e es ih =>
    have hnext := ih (dolphin_withinLimits h e)
    rw [Mealy.final_cons, ← hnext]
    cases e with
    | deed deed now =>
      simp only [grantedSinceClear]
      congr 1
      rw [dolphin_added]
      simp only [dolphin, dolphinStateOnDeed_daily]
      by_cases happ : dolphinDeedGetApp deed = app
      · subst happ
        rw [if_pos rfl, Function.update_self, (daily_add_grant h deed).1]
      · rw [if_neg happ, Function.update_of_ne (Ne.symm happ)]
    | testDeed deed now => cases deed <;> rfl
    | level => rfl
    | butthurt now =>
      simp only [grantedSinceClear, dolphin, dolphinStateButthurted]
      split_ifs <;> rfl
    | clearLimits => rfl

lemma dolphinStateReset_withinLimits : WithinLimits dolphinStateReset :=
  ⟨fun _ => UInt8.zero_le, Int.le_refl 0, show (0 : Int) ≤ 14 by decide⟩

/-- Every step of a run does what it should, and no app is ever granted more than its limit of the
day, if and only if the cap of every deed of the run fits. -/
theorem dolphin_run_iff (es : List DolphinEvent) :
    (dolphin.Along StepMeets dolphinStateReset es ∧
      ∀ front, front <+: es → ∀ app,
        grantedSinceClear app 0 dolphinStateReset front ≤ (dolphinDeedGetAppLimit app).toNat) ↔
    dolphin.Along CapFits dolphinStateReset es := by
  have hkept := fun (s : DolphinState) (e : DolphinEvent) (h : WithinLimits s) (_ : True) =>
    dolphin_withinLimits h e
  constructor
  · rintro ⟨hmeets, -⟩
    exact hmeets.mono (I := WithinLimits) (fun s e h _ => dolphin_withinLimits h e)
      (fun s e h hmeets => (stepMeets_iff h e).mp hmeets) dolphinStateReset_withinLimits
  · intro hfits
    refine ⟨hfits.mono (I := WithinLimits) (fun s e h _ => dolphin_withinLimits h e)
      (fun s e h hfits => (stepMeets_iff h e).mpr hfits) dolphinStateReset_withinLimits, ?_⟩
    intro front _ app
    have hgranted := grantedSinceClear_eq app dolphinStateReset_withinLimits front
    have hfront : dolphin.Along (fun _ _ => True) dolphinStateReset front := Mealy.along_true
    have hend := hfront.invariant hkept dolphinStateReset_withinLimits
    rw [show (dolphinStateReset.icounterDailyLimit app).toNat = 0 from rfl] at hgranted
    rw [hgranted]
    exact UInt8.le_iff_toNat_le.mp (hend.daily app)

/-- The first plugin of a day is started: two hundred points for a deed that weighs five. -/
theorem dolphin_plugin_start :
    ¬ (dolphin.Along StepMeets dolphinStateReset [.deed .pluginStart 0] ∧
      ∀ front, front <+: [.deed .pluginStart 0] → ∀ app,
        grantedSinceClear app 0 dolphinStateReset front ≤ (dolphinDeedGetAppLimit app).toNat) := by
  rintro ⟨⟨hmeets, -⟩, -⟩
  exact absurd (hmeets.weight .pluginStart 0 rfl) (by decide +kernel)

end FlipperZero.Dolphin
