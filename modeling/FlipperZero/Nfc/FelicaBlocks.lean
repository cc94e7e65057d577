import FlipperZero.Nfc.FelicaSteps

/-!
# Which blocks a step changes

A handler of a Write changes the block that it is called for; a Write of MC changes the shadow
alone. Blocks that exist have places of their own in the file system.
-/

namespace FlipperZero

open Foundation

variable {des3 : Des3} {s s' : FelicaListener} {data : FelicaData}

/-! ### Blocks by their numbers -/

lemma blockExists_cases {a : Nat} (h : felicaBlockExists a = true) :
    a ≤ 14 ∨ (128 ≤ a ∧ a ≤ 136) ∨ (144 ≤ a ∧ a ≤ 146) ∨ a = 160 := by
  simp only [felicaBlockExists, felicaBlockIndexReg, felicaBlockIndexRc, felicaBlockIndexMc,
    felicaBlockIndexWcnt, felicaBlockIndexState, felicaBlockIndexCrcCheck] at h
  grind

lemma blockIndex_inj {a b : Nat} (ha : felicaBlockExists a = true) (hb : felicaBlockExists b = true)
    (h : felicaListenerGetBlockIndex a = felicaListenerGetBlockIndex b) : a = b := by
  have ha := blockExists_cases ha
  have hb := blockExists_cases hb
  simp only [felicaListenerGetBlockIndex, felicaBlockIndexReg, felicaBlockIndexRc,
    felicaBlockIndexWcnt, felicaBlockIndexState, felicaBlockIndexCrcCheck] at h
  grind

@[simp] lemma numbered_setNumbered_self (data : FelicaData) (number : Nat)
    (value : FelicaBlockData) : (data.setNumbered number value).numbered number = value :=
  Function.update_self _ _ _

lemma numbered_setNumbered_of_ne {a b : Nat} (ha : felicaBlockExists a = true)
    (hb : felicaBlockExists b = true) (hne : a ≠ b) (data : FelicaData) (value : FelicaBlockData) :
    (data.setNumbered b value).numbered a = data.numbered a :=
  Function.update_of_ne (fun h => hne (blockIndex_inj ha hb h)) _ _

/-! ### Handlers -/

/-- A handler changes the block that it is called for, and no other. -/
lemma writeBlock_numbered {a number : Nat} (ha : felicaBlockExists a = true)
    (hnumber : felicaBlockExists number = true) (hne : a ≠ number) (value : FelicaBlockData)
    (s : FelicaListener) :
    (felicaWriteBlock des3 number value s).data.numbered a = s.data.numbered a := by
  rw [felicaWriteBlock]
  split_ifs with hrc hreg hmc hstate hid
  · exact numbered_setNumbered_of_ne ha (by decide) (hrc ▸ hne) _ _
  · exact numbered_setNumbered_of_ne ha (by decide) (hreg ▸ hne) _ _
  · rfl
  · exact numbered_setNumbered_of_ne ha (by decide) (hstate ▸ hne) _ _
  · exact numbered_setNumbered_of_ne ha (by decide) (hid ▸ hne) _ _
  · exact numbered_setNumbered_of_ne ha hnumber hne _ _

lemma writeBlock_mc {number : Nat} (hnumber : felicaBlockExists number = true)
    (value : FelicaBlockData) (s : FelicaListener) :
    (felicaWriteBlock des3 number value s).data.mc = s.data.mc := by
  by_cases hmc : felicaBlockIndexMc = number
  · subst hmc
    rfl
  · exact writeBlock_numbered (by decide) hnumber hmc value s

lemma writeBlock_mcShadow {number : Nat} (hne : number ≠ felicaBlockIndexMc)
    (value : FelicaBlockData) (s : FelicaListener) :
    (felicaWriteBlock des3 number value s).mcShadow = s.mcShadow := by
  rw [felicaWriteBlock]
  split_ifs <;> rfl

lemma writeBlock_mc_mcShadow (value : FelicaBlockData) (s : FelicaListener) :
    (felicaWriteBlock des3 felicaBlockIndexMc value s).mcShadow = fun i =>
      felicaWriteMcByte (felicaGetMcBit s.data 0 15) s.data.systemBlockRwAccess i (s.mcShadow i)
        (value i) := rfl

/-! ### Writes -/

namespace FelicaWrite

variable {w : FelicaWrite}

lemma numbered_apply {a : Nat} (ha : felicaBlockExists a = true)
    (hnumber : felicaBlockExists w.number = true) (hne : a ≠ w.number)
    (hmacA : a ≠ felicaBlockIndexMacA) :
    (w.apply des3 s).data.numbered a = s.data.numbered a := by
  rw [apply]
  cases w.mac with
  | none     => exact writeBlock_numbered ha hnumber hne _ _
  | some mac =>
    exact (writeBlock_numbered ha (by decide) hmacA _ _).trans
      (writeBlock_numbered ha hnumber hne _ _)

lemma mc_apply (des3 : Des3) (s : FelicaListener)
    (hnumber : felicaBlockExists w.number = true) :
    (w.apply des3 s).data.mc = s.data.mc := by
  rw [apply]
  cases w.mac with
  | none     => exact writeBlock_mc hnumber _ _
  | some mac => exact (writeBlock_mc (by decide) _ _).trans (writeBlock_mc hnumber _ _)

lemma mcShadow_apply : (w.apply des3 s).mcShadow =
    (felicaWriteBlock des3 w.number w.value s).mcShadow := by
  rw [apply]
  cases w.mac with
  | none     => rfl
  | some mac => exact writeBlock_mcShadow (by decide) _ _

lemma Accepted.ne_wcnt (h : w.Accepted des3 s) : felicaBlockIndexWcnt ≠ w.number := by
  intro heq
  have hreadonly := h.writable.writable
  rw [← heq] at hreadonly
  simp [felicaBlockIsReadonly, felicaBlockIndexWcnt, felicaBlockIndexReg, felicaBlockIndexId,
    felicaBlockIndexSerC, felicaBlockIndexCkv, felicaBlockIndexCk] at hreadonly

end FelicaWrite

/-! ### The write counter -/

lemma mc_setWcnt (data : FelicaData) (value : BitVec 32) : (data.setWcnt value).mc = data.mc :=
  numbered_setNumbered_of_ne (by decide) (by decide) (by decide) _ _

@[simp] lemma wcnt_setWcnt (data : FelicaData) (value : BitVec 32) :
    (data.setWcnt value).wcnt = value := by
  rw [FelicaData.wcnt, FelicaData.setWcnt, numbered_setNumbered_self]
  exact Memory.load_store (by decide) _ _ _

lemma wcntGetMaxValue_congr {data' : FelicaData} (h : data'.mc = data.mc) :
    felicaWcntGetMaxValue data' = felicaWcntGetMaxValue data := by
  rw [felicaWcntGetMaxValue, felicaWcntGetMaxValue, FelicaData.systemBlockRoAccess,
    FelicaData.systemBlockRwAccess, FelicaData.systemBlockRoAccess, FelicaData.systemBlockRwAccess,
    h]

lemma wcntGetMaxValue_eq_none :
    felicaWcntGetMaxValue data = none ↔ ¬ (data.mc 2 = 0x00 ∨ data.mc 2 = 0xFF) := by
  rw [felicaWcntGetMaxValue, FelicaData.systemBlockRoAccess, FelicaData.systemBlockRwAccess]
  split_ifs with h
  · simpa using h
  · simp only [false_iff, not_not]
    simpa [← imp_iff_not_or, or_iff_not_imp_left] using h

lemma wcntIncrement_eq {data' : FelicaData} (h : felicaWcntIncrement data = some data') :
    ∃ wcntMax, felicaWcntGetMaxValue data = some wcntMax ∧ data'.mc = data.mc ∧
      data'.wcnt = (if data.wcnt < wcntMax then data.wcnt + 1 else data.wcnt) ∧
      ∀ a, felicaBlockExists a = true → a ≠ felicaBlockIndexWcnt →
        data'.numbered a = data.numbered a := by
  obtain ⟨wcntMax, hmax, rfl⟩ := Option.map_eq_some_iff.mp h
  refine ⟨wcntMax, hmax, ?_⟩
  split_ifs with hlt
  · exact ⟨mc_setWcnt _ _, wcnt_setWcnt _ _, fun a ha hne =>
      numbered_setNumbered_of_ne ha (by decide) hne _ _⟩
  · exact ⟨rfl, rfl, fun _ _ _ => rfl⟩

lemma wcntPostProcess_mc (data : FelicaData) : (felicaWcntPostProcess data).mc = data.mc := by
  rw [felicaWcntPostProcess]
  split_ifs
  · exact mc_setWcnt _ _
  · rfl

lemma wcntPostProcess_numbered {a : Nat} (ha : felicaBlockExists a = true)
    (hne : a ≠ felicaBlockIndexWcnt) (data : FelicaData) :
    (felicaWcntPostProcess data).numbered a = data.numbered a := by
  rw [felicaWcntPostProcess]
  split_ifs
  · exact numbered_setNumbered_of_ne ha (by decide) hne _ _
  · rfl

/-! ### Reset -/

lemma reset_mc (s : FelicaListener) : (felicaListenerReset s).data.mc = s.mcShadow :=
  (wcntPostProcess_mc _).trans (numbered_setNumbered_self _ _ _)

lemma reset_numbered {a : Nat} (ha : felicaBlockExists a = true)
    (hstate : a ≠ felicaBlockIndexState) (hmc : a ≠ felicaBlockIndexMc)
    (hwcnt : a ≠ felicaBlockIndexWcnt) (s : FelicaListener) :
    (felicaListenerReset s).data.numbered a = s.data.numbered a := by
  have h₁ := wcntPostProcess_numbered ha hwcnt
    ((s.data.setState 0).setNumbered felicaBlockIndexMc s.mcShadow)
  have h₂ := numbered_setNumbered_of_ne ha (by decide : felicaBlockExists felicaBlockIndexMc = true)
    hmc (s.data.setState 0) s.mcShadow
  have h₃ := numbered_setNumbered_of_ne ha
    (by decide : felicaBlockExists felicaBlockIndexState = true) hstate s.data
    (Function.update s.data.state 0 0)
  exact (h₁.trans h₂).trans h₃

end FlipperZero
