import FlipperZero.Nfc.FelicaBlocks
import FlipperZero.Nfc.MfUltralightMemorySafety

/-!
# The system byte of MC and the write counter

The maximum of the write counter is taken from the system byte of MC, and the system crashes for a
byte that is neither 0x00 nor 0xFF. A reader may put such a byte into the shadow of MC as long as
the byte is 0xFF; it takes effect when the field is switched off.
-/

namespace FlipperZero

open Foundation

variable {des3 : Des3} {s s' : FelicaListener} {data : FelicaData}

/-- The system byte and the byte that takes its place are those of a card. -/
structure FelicaListener.Sane (s : FelicaListener) : Prop where
  mc     : s.data.mc 2 = 0x00 ∨ s.data.mc 2 = 0xFF
  shadow : s.mcShadow 2 = 0x00 ∨ s.mcShadow 2 = 0xFF
  wcnt   : s.data.wcnt ≤ 0x00FFFFFF

/-- The write counter is at most its maximum. -/
def FelicaListener.Bounded (s : FelicaListener) : Prop :=
  ∀ wcntMax, felicaWcntGetMaxValue s.data = some wcntMax → s.data.wcnt ≤ wcntMax

/-- A Write of MC that may still change the system byte keeps it one of a card. -/
def FelicaListener.McWriteSane (des3 : Des3) (s : FelicaListener) : FelicaEvent → Prop
  | .received frame size => ∀ blockListSize, FelicaAccepts des3 s frame size blockListSize →
    (felicaWriteOf frame blockListSize).number = felicaBlockIndexMc → s.data.mc 2 = 0xFF →
      (felicaWriteOf frame blockListSize).value 2 = 0x00 ∨
        (felicaWriteOf frame blockListSize).value 2 = 0xFF
  | _ => True

/-! ### Steps -/

lemma FelicaListener.AfterRead.keeps (h : s.AfterRead s') :
    s'.mcShadow = s.mcShadow ∧ s'.data.mc = s.data.mc ∧ s'.data.wcnt = s.data.wcnt := by
  obtain ⟨s₁, ⟨value, rfl⟩, sent, rfl⟩ := h
  refine ⟨rfl, numbered_setNumbered_of_ne (by decide) (by decide) (by decide) _ _, ?_⟩
  exact congrArg (Memory.load 32 · 0)
    (numbered_setNumbered_of_ne (by decide) (by decide) (by decide) _ _)

namespace FelicaWrite

variable {w : FelicaWrite}

lemma Accepted.wcnt_apply (h : w.Accepted des3 s) :
    (w.apply des3 s).data.wcnt = s.data.wcnt :=
  congrArg (Memory.load 32 · 0)
    (numbered_apply (by decide) h.writable.exist h.ne_wcnt (by decide))

lemma Done.keeps (h : w.Done des3 s (some s')) :
    s'.mcShadow = (felicaWriteBlock des3 w.number w.value s).mcShadow ∧
      s'.data.mc = s.data.mc ∧ ∃ wcntMax, felicaWcntGetMaxValue s.data = some wcntMax ∧
        s'.data.wcnt = (if s.data.wcnt < wcntMax then s.data.wcnt + 1 else s.data.wcnt) := by
  obtain ⟨haccepted, sent, hresult⟩ := h
  obtain ⟨data, hincrement, hs'⟩ := Option.map_eq_some_iff.mp hresult.symm
  obtain ⟨wcntMax, hmax, hmc, hwcnt, -⟩ := wcntIncrement_eq hincrement
  have hmc' := mc_apply des3 s haccepted.writable.exist
  rw [haccepted.wcnt_apply] at hwcnt
  rw [wcntGetMaxValue_congr hmc'] at hmax
  subst hs'
  exact ⟨mcShadow_apply, hmc.trans hmc', wcntMax, hmax, hwcnt⟩

lemma Done.ne_none (h : w.Done des3 s none) :
    felicaWcntGetMaxValue s.data = none := by
  obtain ⟨haccepted, sent, hresult⟩ := h
  have hincrement := Option.map_eq_none_iff.mp hresult.symm
  rw [← wcntGetMaxValue_congr (mc_apply des3 s haccepted.writable.exist)]
  exact Option.map_eq_none_iff.mp hincrement

end FelicaWrite

lemma writeBlock_shadow_systemByte {number : Nat} {value : FelicaBlockData}
    (hshadow : s.mcShadow 2 = 0x00 ∨ s.mcShadow 2 = 0xFF)
    (hvalue : number = felicaBlockIndexMc → s.data.mc 2 = 0xFF →
      value 2 = 0x00 ∨ value 2 = 0xFF) :
    (felicaWriteBlock des3 number value s).mcShadow 2 = 0x00 ∨
      (felicaWriteBlock des3 number value s).mcShadow 2 = 0xFF := by
  by_cases hmc : number = felicaBlockIndexMc
  · subst hmc
    rw [writeBlock_mc_mcShadow]
    simp only [felicaWriteMcByte]
    by_cases hsystem : s.data.systemBlockRwAccess = true
    · have hff : s.data.mc 2 = 0xFF := by simpa [FelicaData.systemBlockRwAccess] using hsystem
      simpa [hsystem] using hvalue rfl hff
    · simpa [hsystem] using hshadow
  · rw [writeBlock_mcShadow hmc]
    exact hshadow

lemma reset_wcnt (s : FelicaListener) : (felicaListenerReset s).data.wcnt =
    if s.mcShadow 2 = 0x00 ∧ 0x00FFFE00 < s.data.wcnt then 0 else s.data.wcnt := by
  have hmc : ((s.data.setState 0).setNumbered felicaBlockIndexMc s.mcShadow).mc = s.mcShadow :=
    numbered_setNumbered_self _ _ _
  have hwcnt : ((s.data.setState 0).setNumbered felicaBlockIndexMc s.mcShadow).wcnt =
      s.data.wcnt := congrArg (Memory.load 32 · 0)
    ((numbered_setNumbered_of_ne (by decide) (by decide) (by decide) _ _).trans
      (numbered_setNumbered_of_ne (by decide) (by decide) (by decide) _ _))
  simp only [felicaListenerReset, felicaWcntPostProcess, FelicaData.systemBlockRoAccess, hmc, hwcnt,
    Bool.and_eq_true, beq_iff_eq, decide_eq_true_eq]
  split_ifs
  · exact wcnt_setWcnt _ _
  · exact hwcnt

lemma wcntGetMaxValue_eq {wcntMax : BitVec 32} (h : felicaWcntGetMaxValue data = some wcntMax) :
    (data.mc 2 = 0x00 ∧ wcntMax = 0x00FFFE00) ∨ (data.mc 2 = 0xFF ∧ wcntMax = 0x00FFFFFF) := by
  rw [felicaWcntGetMaxValue, FelicaData.systemBlockRoAccess, FelicaData.systemBlockRwAccess] at h
  split at h
  · cases h
  next hcard =>
  obtain rfl := Option.some.inj h
  by_cases hff : data.mc 2 = 0xFF
  · right
    simp [hff]
  · left
    simp only [Bool.and_eq_true, Bool.not_eq_true', beq_eq_false_iff_ne, not_and, not_not] at hcard
    refine ⟨?_, if_neg (by simpa using hff)⟩
    by_contra hne
    exact hff (hcard hne)

lemma FelicaListener.Sane.reset (h : s.Sane) :
    (felicaListenerReset s).Sane ∧ (felicaListenerReset s).Bounded := by
  have hmc := reset_mc s
  have hle : (felicaListenerReset s).data.wcnt ≤ s.data.wcnt := by
    rw [reset_wcnt]
    split_ifs
    · simp [BitVec.le_def]
    · exact BitVec.le_refl _
  refine ⟨⟨by rw [hmc]; exact h.shadow, h.shadow, BitVec.le_trans hle h.wcnt⟩, ?_⟩
  intro wcntMax hmax
  rcases wcntGetMaxValue_eq hmax with ⟨hzero, rfl⟩ | ⟨hff, rfl⟩
  · rw [hmc] at hzero
    rw [reset_wcnt]
    split_ifs with hover
    · simp [BitVec.le_def]
    · exact BitVec.not_lt.mp fun hlt => hover ⟨hzero, hlt⟩
  · exact BitVec.le_trans hle h.wcnt

lemma FelicaListener.Sane.write {w : FelicaWrite} (h : s.Sane) (hdone : w.Done des3 s (some s'))
    (hvalue : w.number = felicaBlockIndexMc → s.data.mc 2 = 0xFF →
      w.value 2 = 0x00 ∨ w.value 2 = 0xFF) : s'.Sane := by
  obtain ⟨hshadow, hmc, wcntMax, hmax, hwcnt⟩ := hdone.keeps
  refine ⟨hmc ▸ h.mc, hshadow ▸ writeBlock_shadow_systemByte h.shadow hvalue, ?_⟩
  have hle := h.wcnt
  rw [hwcnt]
  split_ifs with hlt
  · rcases wcntGetMaxValue_eq hmax with ⟨-, rfl⟩ | ⟨-, rfl⟩ <;> bv_omega
  · exact hle

lemma FelicaListener.Sane.step {e : FelicaEvent} (h : s.Sane) (hguard : s.McWriteSane des3 e)
    (hstep : (felicaSystem des3).step s e = some s') : s'.Sane := by
  cases felicaSystem_outcome hstep with
  | reset => exact h.reset.1
  | other hread =>
    obtain ⟨hshadow, hmc, hwcnt⟩ := hread.keeps
    exact ⟨hmc ▸ h.mc, hshadow ▸ h.shadow, hwcnt ▸ h.wcnt⟩
  | read _ hread =>
    obtain ⟨hshadow, hmc, hwcnt⟩ := hread.keeps
    exact ⟨hmc ▸ h.mc, hshadow ▸ h.shadow, hwcnt ▸ h.wcnt⟩
  | write haccepts hdone => exact h.write hdone (hguard _ haccepts)

/-- The counter stays below its maximum: a Write stops at it, and a reset sees to it. -/
lemma FelicaListener.Bounded.step {e : FelicaEvent} (h : s.Bounded) (hsane : s.Sane)
    (hstep : (felicaSystem des3).step s e = some s') : s'.Bounded := by
  have hkeeps (hmc : s'.data.mc = s.data.mc) (hwcnt : s'.data.wcnt = s.data.wcnt) :
      s'.Bounded := by
    intro wcntMax hmax
    rw [wcntGetMaxValue_congr hmc] at hmax
    rw [hwcnt]
    exact h wcntMax hmax
  cases felicaSystem_outcome hstep with
  | reset => exact hsane.reset.2
  | other hread => exact hkeeps hread.keeps.2.1 hread.keeps.2.2
  | read _ hread => exact hkeeps hread.keeps.2.1 hread.keeps.2.2
  | write haccepts hdone =>
    obtain ⟨-, hmc, wcntMax, hmax, hwcnt⟩ := hdone.keeps
    intro wcntMax' hmax'
    rw [wcntGetMaxValue_congr hmc, hmax] at hmax'
    obtain rfl := Option.some.inj hmax'
    have hle := h wcntMax hmax
    rw [hwcnt]
    split_ifs with hlt
    · bv_omega
    · exact hle

/-! ### Runs -/

lemma sane_alloc (hmc : data.mc 2 = 0x00 ∨ data.mc 2 = 0xFF) (hwcnt : data.wcnt ≤ 0x00FFFFFF) :
    (felicaListenerAlloc data).Sane := by
  have hsame : (felicaListenerAlloc data).data.mc = data.mc :=
    numbered_setNumbered_of_ne (by decide) (by decide) (by decide) _ _
  have hsame' : (felicaListenerAlloc data).data.wcnt = data.wcnt :=
    congrArg (Memory.load 32 · 0)
      (numbered_setNumbered_of_ne (by decide) (by decide) (by decide) _ _)
  exact ⟨hsame ▸ hmc, hmc, hsame' ▸ hwcnt⟩

lemma sane_of_reaches (h : s.Sane)
    (hrun : (felicaSystem des3).Reaches (FelicaListener.McWriteSane des3) s s') : s'.Sane :=
  hrun.invariant h fun _ _ _ hsane hguard hstep => hsane.step hguard hstep

/-- In every run whose Writes of MC keep the system byte one of a card it stays one of a card, the
system does not crash, and the counter counts the Writes that are accepted up to its maximum, which
it does not exceed after a reset. -/
theorem felica_counter_run (des3 : Des3) {data : FelicaData} {s : FelicaListener}
    (hmc : data.mc 2 = 0x00 ∨ data.mc 2 = 0xFF) (hwcnt : data.wcnt ≤ 0x00FFFFFF)
    (hrun : (felicaSystem des3).Reaches (FelicaListener.McWriteSane des3)
      (felicaListenerAlloc data) s) :
    (s.data.mc 2 = 0x00 ∨ s.data.mc 2 = 0xFF) ∧
      (∀ e, (felicaListenerRun des3 s e).value ≠ some none) ∧
      (∀ t, (felicaSystem des3).Reaches (FelicaListener.McWriteSane des3)
        (felicaListenerReset s) t → t.Bounded) ∧
      ∀ frame size s', (felicaSystem des3).step s (.received frame size) = some s' →
        (∀ blockListSize, FelicaAccepts des3 s frame size blockListSize →
          ∃ wcntMax, felicaWcntGetMaxValue s.data = some wcntMax ∧ s'.data.wcnt =
            if s.data.wcnt < wcntMax then s.data.wcnt + 1 else s.data.wcnt) ∧
        ((∀ blockListSize, ¬ FelicaAccepts des3 s frame size blockListSize) →
          s'.data.wcnt = s.data.wcnt) := by
  have hsane := sane_of_reaches (sane_alloc hmc hwcnt) hrun
  refine ⟨hsane.mc, fun e hcrash => ?_, fun t ht => ?_, fun frame size s' hstep => ?_⟩
  · have hnone : felicaWcntGetMaxValue s.data = none := by
      cases felicaListenerRun_outcome hcrash with
      | crashed h     => exact h
      | write _ hdone => exact hdone.ne_none
    exact wcntGetMaxValue_eq_none.mp hnone hsane.mc
  · have hboth := ht.invariant (I := fun t => t.Sane ∧ t.Bounded) hsane.reset
      fun _ _ _ h hguard hstep => ⟨h.1.step hguard hstep, h.2.step h.1 hstep⟩
    exact hboth.2
  · cases felicaSystem_outcome hstep with
    | read hnone hread =>
      exact ⟨fun _ haccepts => absurd haccepts (hnone _), fun _ => hread.keeps.2.2⟩
    | write haccepts hdone =>
      obtain ⟨-, -, hcounts⟩ := hdone.keeps
      exact ⟨fun _ _ => hcounts, fun hnone => absurd haccepts (hnone _)⟩

/-- A card whose user blocks and system blocks may be written. -/
def felicaBlank : FelicaData where
  idm := List.replicate 8 0
  block := fun index i => if index = 23 ∧ i < 3 then 0xFF else 0

def felicaFrame (bytes : List (BitVec 8)) : FelicaEvent :=
  .received (fun i => bytes.getD i 0) bytes.length

def felicaWriteSystemByte : FelicaEvent :=
  felicaFrame ([32, 0x08] ++ List.replicate 8 0 ++ [1, 0x09, 0, 1, 0x80, 0x88] ++
    [0xFF, 0xFF, 0x55] ++ List.replicate 13 0 ++ [144, 161])

def felicaWriteUserBlock : FelicaEvent :=
  felicaFrame ([32, 0x08] ++ List.replicate 8 0 ++ [1, 0x09, 0, 1, 0x80, 0x00] ++
    List.replicate 16 1 ++ [243, 104])

/-- The request is no Write of MC. -/
def FelicaEvent.SparesMc : FelicaEvent → Prop
  | .received frame _ => frame 15 ≠ 0x88
  | _ => True

instance : ∀ e : FelicaEvent, Decidable e.SparesMc
  | .received frame _ => inferInstanceAs (Decidable (frame 15 ≠ 0x88))
  | .fieldOff | .other => inferInstanceAs (Decidable True)

lemma FelicaEvent.SparesMc.sane {e : FelicaEvent} (h : e.SparesMc) : s.McWriteSane des3 e := by
  cases e with
  | received frame size =>
    exact fun blockListSize _ hnumber _ =>
      absurd (BitVec.eq_of_toNat_eq (y := 0x88) hnumber) h
  | _ => trivial

lemma felicaBlank_replay :
    ((felicaSystem idleDes3).replay (fun _ e => e.SparesMc) (felicaListenerAlloc felicaBlank)
      [felicaWriteUserBlock, .fieldOff, felicaWriteUserBlock]).map (fun s => s.data.wcnt) =
        some 2 := by
  decide +kernel

/-- Two Writes of that card with a reset between them are counted, and the counter keeps to its
maximum after the next reset. -/
theorem felica_counter_run_blank : ∃ s,
    (felicaSystem idleDes3).replay (fun _ e => e.SparesMc) (felicaListenerAlloc felicaBlank)
      [felicaWriteUserBlock, .fieldOff, felicaWriteUserBlock] = some s ∧
    s.data.wcnt = 2 ∧ (felicaListenerReset s).Bounded := by
  obtain ⟨s, hreplay, hwcnt⟩ := Option.map_eq_some_iff.mp felicaBlank_replay
  have hrun := System.Reaches.of_replay .refl hreplay
  exact ⟨s, hreplay, hwcnt, (felica_counter_run idleDes3 (.inr rfl) (by decide)
    (hrun.mono fun _ _ hspares => hspares.sane)).2.2.1 _ .refl⟩

lemma felicaCrash_replay :
    (((felicaSystem idleDes3).replay (fun _ _ => True) (felicaListenerAlloc felicaBlank)
      [felicaWriteSystemByte, .fieldOff]).bind fun s =>
        (felicaListenerRun idleDes3 s felicaWriteUserBlock).value.map Option.isNone) = some true := by
  decide +kernel

/-- A Write of MC, a reset and a Write crash the system. -/
theorem felicaListenerRun_crashes :
    ¬∀ (des3 : Des3) (data : FelicaData) (s : FelicaListener) (e : FelicaEvent),
      data.mc 2 = 0x00 ∨ data.mc 2 = 0xFF →
      (felicaSystem des3).Reaches (fun _ _ => True) (felicaListenerAlloc data) s →
      (felicaListenerRun des3 s e).value ≠ some none := by
  intro h
  obtain ⟨s, hreplay, hvalue⟩ := Option.bind_eq_some_iff.mp felicaCrash_replay
  obtain ⟨r, hr, hnone⟩ := Option.map_eq_some_iff.mp hvalue
  refine h idleDes3 felicaBlank s felicaWriteUserBlock (.inr rfl) (.of_replay .refl hreplay) ?_
  rw [hr, Option.isNone_iff_eq_none.mp hnone]

end FlipperZero
