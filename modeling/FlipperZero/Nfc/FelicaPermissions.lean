import Mathlib.Tactic.IntervalCases
import FlipperZero.Nfc.FelicaCounter

/-!
# Permissions that only shrink

What a reader writes to MC is joined with the shadow, so that over a run of any length permissions
are only taken away, and a block that is read-only or needs a MAC keeps its contents. The block
STATE, which may need a MAC, is cleared at a reset in its first byte.
-/

namespace FlipperZero

open Foundation

variable {des3 : Des3} {s s' t : FelicaListener} {data : FelicaData}

/-- The permissions of `mc'` are among those of `mc`, as far as they cannot be given back. -/
structure FelicaMcShrinks (mc mc' : FelicaBlockData) : Prop where
  low    : ∀ i ≤ 1, Grows (mc' i) (mc i)
  high   : ∀ i, 6 ≤ i → i ≤ 12 → Grows (mc i) (mc' i)
  system : mc 2 ≠ 0xFF → ∀ i, 2 ≤ i → i ≤ 5 → mc' i = mc i

lemma FelicaMcShrinks.refl (mc : FelicaBlockData) : FelicaMcShrinks mc mc :=
  ⟨fun _ _ => .refl _, fun _ _ _ => .refl _, fun _ _ _ _ => rfl⟩

lemma FelicaMcShrinks.trans {a b c : FelicaBlockData} (h : FelicaMcShrinks a b)
    (h' : FelicaMcShrinks b c) : FelicaMcShrinks a c := by
  refine ⟨fun i hi => (h'.low i hi).trans (h.low i hi),
    fun i hi hi' => (h.high i hi hi').trans (h'.high i hi hi'), fun hne i hi hi' => ?_⟩
  have hsame := h.system hne 2 (by decide) (by decide)
  rw [h'.system (hsame ▸ hne) i hi hi', h.system hne i hi hi']

/-! ### Writes of MC -/

lemma and_grows (x y : BitVec 8) : Grows (x &&& y) x := by
  intro i hi
  rw [BitVec.getLsbD_and, Bool.and_eq_true] at hi
  exact hi.1

lemma writeMc_shrinks (bits : Bool) {mc shadow value : FelicaBlockData}
    (h : FelicaMcShrinks mc shadow) :
    FelicaMcShrinks mc fun i => felicaWriteMcByte bits (mc 2 == 0xFF) i (shadow i) (value i) := by
  refine ⟨fun i hi => ?_, fun i hi hi' => ?_, fun hne i hi hi' => ?_⟩
  · have hshadow := h.low i hi
    simp only [felicaWriteMcByte]
    split_ifs <;> first
      | exact (and_grows _ _).trans hshadow
      | exact hshadow
      | omega
  · have hshadow := h.high i hi hi'
    simp only [felicaWriteMcByte]
    split_ifs <;> first
      | exact hshadow.trans (.or _ _)
      | exact hshadow
      | omega
  · have hshadow := h.system hne i hi hi'
    simp only [felicaWriteMcByte]
    split_ifs with hlow hsystem <;> first
      | exact absurd (by simpa using hsystem.2.2) hne
      | exact hshadow
      | omega

lemma writeBlock_shrinks {number : Nat} {value : FelicaBlockData}
    (h : FelicaMcShrinks s.data.mc s.mcShadow) :
    FelicaMcShrinks s.data.mc (felicaWriteBlock des3 number value s).mcShadow := by
  by_cases hmc : number = felicaBlockIndexMc
  · subst hmc
    rw [writeBlock_mc_mcShadow]
    exact writeMc_shrinks _ h
  · rw [writeBlock_mcShadow hmc]
    exact h

/-- A step keeps the shadow below the permissions and takes none back. -/
lemma mcShrinks_step {e : FelicaEvent} (h : FelicaMcShrinks s.data.mc s.mcShadow)
    (hstep : (felicaSystem des3).step s e = some s') :
    FelicaMcShrinks s.data.mc s'.data.mc ∧ FelicaMcShrinks s'.data.mc s'.mcShadow := by
  have hkeeps (hmc : s'.data.mc = s.data.mc) (hshadow : s'.mcShadow = s.mcShadow) :
      FelicaMcShrinks s.data.mc s'.data.mc ∧ FelicaMcShrinks s'.data.mc s'.mcShadow := by
    rw [hmc, hshadow]
    exact ⟨.refl _, h⟩
  cases felicaSystem_outcome hstep with
  | reset =>
    rw [reset_mc]
    exact ⟨h, .refl _⟩
  | other hread   => exact hkeeps hread.keeps.2.1 hread.keeps.1
  | read _ hread  => exact hkeeps hread.keeps.2.1 hread.keeps.1
  | write _ hdone =>
    obtain ⟨hshadow, hmc, -⟩ := hdone.keeps
    rw [hmc, hshadow]
    exact ⟨.refl _, writeBlock_shrinks h⟩

/-! ### Permissions of a block -/

lemma getMcBit_eq (data : FelicaData) (byteIndex : Nat) {number : Nat} (h : number < 16) :
    felicaGetMcBit data byteIndex number =
      (data.mc (byteIndex + number / 8)).getLsbD (number % 8) :=
  Memory.getLsbD_load (w := 16) h _ _

lemma readonly_of_shrinks {data' : FelicaData} (h : FelicaMcShrinks data.mc data'.mc) {number : Nat}
    (hnumber : number ≤ felicaBlockIndexReg)
    (hreadonly : felicaBlockIsReadonly data number = true) :
    felicaBlockIsReadonly data' number = true := by
  have hlt : number < 16 := Nat.lt_of_le_of_lt hnumber (by decide)
  rw [felicaBlockIsReadonly, if_pos hnumber, Bool.not_eq_true', getMcBit_eq _ _ hlt] at hreadonly ⊢
  rw [Bool.eq_false_iff] at hreadonly ⊢
  exact fun hbit => hreadonly (h.low (0 + number / 8) (by omega) _ hbit)

/-! ### What a step changes -/

/-- Apart from MAC_A and the counter, a step changes the block of an accepted Write, and a reset
changes STATE and MC. -/
inductive FelicaChange (des3 : Des3) (s : FelicaListener) (number : Nat) :
    FelicaEvent → FelicaListener → Prop
  | same {e : FelicaEvent} {s' : FelicaListener}
    (h : s'.data.numbered number = s.data.numbered number) : FelicaChange des3 s number e s'
  | reset (h : number = felicaBlockIndexState ∨ number = felicaBlockIndexMc) :
    FelicaChange des3 s number .fieldOff (felicaListenerReset s)
  | write {frame : Memory} {size blockListSize : Nat} {s' : FelicaListener}
    (haccepts : FelicaAccepts des3 s frame size blockListSize)
    (hnumber : (felicaWriteOf frame blockListSize).number = number)
    (haccepted : (felicaWriteOf frame blockListSize).Accepted des3 s)
    (h : s'.data.numbered number =
      (felicaWriteBlock des3 number (felicaWriteOf frame blockListSize).value s).data.numbered
        number) :
    FelicaChange des3 s number (.received frame size) s'

lemma FelicaWrite.Done.numbered {w : FelicaWrite} {number : Nat} (h : w.Done des3 s (some s'))
    (hexists : felicaBlockExists number = true) (hmacA : number ≠ felicaBlockIndexMacA)
    (hwcnt : number ≠ felicaBlockIndexWcnt) :
    s'.data.numbered number = s.data.numbered number ∨
      (w.number = number ∧ s'.data.numbered number =
        (felicaWriteBlock des3 number w.value s).data.numbered number) := by
  obtain ⟨haccepted, sent, hresult⟩ := h
  obtain ⟨data, hincrement, rfl⟩ := Option.map_eq_some_iff.mp hresult.symm
  obtain ⟨-, -, -, -, hothers⟩ := wcntIncrement_eq hincrement
  have hsame := hothers number hexists hwcnt
  by_cases hnumber : w.number = number
  · refine .inr ⟨hnumber, hsame.trans ?_⟩
    subst hnumber
    rw [FelicaWrite.apply]
    cases w.mac with
    | none     => rfl
    | some mac => exact writeBlock_numbered hexists (by decide) hmacA _ _
  · exact .inl (hsame.trans (FelicaWrite.numbered_apply hexists haccepted.writable.exist
      (Ne.symm hnumber) hmacA))

lemma change_of_step {e : FelicaEvent} (number : Nat) (hexists : felicaBlockExists number = true)
    (hmacA : number ≠ felicaBlockIndexMacA) (hwcnt : number ≠ felicaBlockIndexWcnt)
    (hstep : (felicaSystem des3).step s e = some s') : FelicaChange des3 s number e s' := by
  have hread (h : s.AfterRead s') : s'.data.numbered number = s.data.numbered number := by
    obtain ⟨s₁, ⟨value, rfl⟩, sent, rfl⟩ := h
    exact numbered_setNumbered_of_ne hexists (by decide) hmacA _ _
  cases felicaSystem_outcome hstep with
  | reset =>
    by_cases h : number = felicaBlockIndexState ∨ number = felicaBlockIndexMc
    · exact .reset h
    · exact .same (reset_numbered hexists (not_or.mp h).1 (not_or.mp h).2 hwcnt s)
  | other h  => exact .same (hread h)
  | read _ h => exact .same (hread h)
  | write haccepts hdone =>
    rcases hdone.numbered hexists hmacA hwcnt with hsame | ⟨hnumber, hchanged⟩
    · exact .same hsame
    · exact .write haccepts hnumber hdone.accepted hchanged

/-! ### The counters of REG -/

lemma load_writeReg (old new : FelicaBlockData) (half : Nat) (hhalf : half = 0 ∨ half = 4) :
    (felicaWriteReg old new).load 32 half =
      if new.load 32 half ≤ old.load 32 half then new.load 32 half else old.load 32 half := by
  rcases hhalf with rfl | rfl
  · by_cases hle : new.load 32 0 ≤ old.load 32 0
    · rw [if_pos hle]
      refine Memory.load_congr fun i hi => ?_
      simp only [felicaWriteReg]
      rw [if_pos (by omega), if_pos hle]
    · rw [if_neg hle]
      refine Memory.load_congr fun i hi => ?_
      simp only [felicaWriteReg]
      rw [if_pos (by omega), if_neg hle]
  · by_cases hle : new.load 32 4 ≤ old.load 32 4
    · rw [if_pos hle]
      refine Memory.load_congr fun i hi => ?_
      simp only [felicaWriteReg]
      rw [if_neg (by omega), if_pos (by omega), if_pos hle]
    · rw [if_neg hle]
      refine Memory.load_congr fun i hi => ?_
      simp only [felicaWriteReg]
      rw [if_neg (by omega), if_pos (by omega), if_neg hle]

def FelicaRegFalls (reg reg' : FelicaBlockData) : Prop :=
  reg'.load 32 0 ≤ reg.load 32 0 ∧ reg'.load 32 4 ≤ reg.load 32 4

lemma writeReg_falls (old new : FelicaBlockData) : FelicaRegFalls old (felicaWriteReg old new) := by
  refine ⟨?_, ?_⟩
  · rw [load_writeReg _ _ 0 (.inl rfl)]
    split_ifs with hle
    · exact hle
    · exact BitVec.le_refl _
  · rw [load_writeReg _ _ 4 (.inr rfl)]
    split_ifs with hle
    · exact hle
    · exact BitVec.le_refl _

lemma regFalls_step {e : FelicaEvent} (hstep : (felicaSystem des3).step s e = some s') :
    FelicaRegFalls s.data.reg s'.data.reg := by
  cases change_of_step felicaBlockIndexReg (by decide) (by decide) (by decide) hstep with
  | same h => exact ⟨BitVec.le_of_eq (congrArg (Memory.load 32 · 0) h),
      BitVec.le_of_eq (congrArg (Memory.load 32 · 4) h)⟩
  | reset h => exact absurd h (by decide)
  | write _ _ _ h =>
    rw [FelicaData.reg, FelicaData.reg, h]
    exact writeReg_falls _ _

/-! ### Blocks that need a MAC -/

lemma blockExists_of_le {number : Nat} (h : number ≤ felicaBlockIndexReg) :
    felicaBlockExists number = true := by
  simp only [felicaBlockIndexReg] at h
  interval_cases number <;> decide

lemma requiresMac_cases {number : Nat} (h : felicaBlockRequiresMac data number = true) :
    felicaBlockExists number = true ∧ number ≠ felicaBlockIndexMacA ∧
      number ≠ felicaBlockIndexWcnt ∧ number ≠ felicaBlockIndexMc := by
  have hcases : number ≤ 14 ∨ number = 134 ∨ number = 135 ∨ number = 146 := by
    simp only [felicaBlockRequiresMac, felicaBlockIndexReg, felicaBlockIndexCk, felicaBlockIndexCkv,
      felicaBlockIndexState] at h
    grind
  have hexists : felicaBlockExists number = true := by
    rcases hcases with hle | rfl | rfl | rfl
    · exact blockExists_of_le hle
    all_goals decide
  exact ⟨hexists, by simp only [felicaBlockIndexMacA]; omega,
    by simp only [felicaBlockIndexWcnt]; omega, by simp only [felicaBlockIndexMc]; omega⟩

lemma reset_state (s : FelicaListener) :
    (felicaListenerReset s).data.state = Function.update s.data.state 0 0 := by
  have h₁ := wcntPostProcess_numbered (a := felicaBlockIndexState) (by decide) (by decide)
    ((s.data.setState 0).setNumbered felicaBlockIndexMc s.mcShadow)
  have h₂ := numbered_setNumbered_of_ne (a := felicaBlockIndexState) (b := felicaBlockIndexMc)
    (by decide) (by decide) (by decide) (s.data.setState 0) s.mcShadow
  exact (h₁.trans h₂).trans (numbered_setNumbered_self _ _ _)

/-- A request that carries a MAC of the session for its block. -/
def FelicaListener.MacWrite (des3 : Des3) (s : FelicaListener) (number : Nat) (e : FelicaEvent) :
    Prop :=
  ∃ frame size blockListSize mac, e = .received frame size ∧
    FelicaAccepts des3 s frame size blockListSize ∧
    (felicaWriteOf frame blockListSize).number = number ∧
    (felicaWriteOf frame blockListSize).mac = some mac ∧
    FelicaMacVerified des3 s (felicaWriteOf frame blockListSize).value mac

lemma macWrite_of_change {e : FelicaEvent} {number : Nat}
    (hstep : (felicaSystem des3).step s e = some s')
    (hmac : felicaBlockRequiresMac s.data number = true)
    (hchange : s'.data.numbered number ≠ s.data.numbered number) :
    s.MacWrite des3 number e ∨ (number = felicaBlockIndexState ∧ e = .fieldOff ∧
      ∀ i ≠ 0, s'.data.state i = s.data.state i) := by
  obtain ⟨hexists, hmacA, hwcnt, hmc⟩ := requiresMac_cases hmac
  cases change_of_step number hexists hmacA hwcnt hstep with
  | same h => exact absurd h hchange
  | reset h =>
    refine .inr ⟨h.resolve_right hmc, rfl, fun i hi => ?_⟩
    rw [reset_state, Function.update_of_ne hi]
  | write haccepts hnumber haccepted =>
    subst hnumber
    obtain ⟨mac, hsome⟩ := Option.isSome_iff_exists.mp (haccepted.writable.mac hmac)
    exact .inl ⟨_, _, _, mac, rfl, haccepts, rfl, hsome, haccepted.verified mac hsome⟩

/-! ### Runs -/

/-- What a run keeps of the permissions and the blocks. -/
structure FelicaListener.Kept (s t : FelicaListener) : Prop where
  mc       : FelicaMcShrinks s.data.mc t.data.mc
  shadow   : FelicaMcShrinks t.data.mc t.mcShadow
  reg      : FelicaRegFalls s.data.reg t.data.reg
  readonly : ∀ number ≤ felicaBlockIndexReg, felicaBlockIsReadonly s.data number = true →
    t.data.numbered number = s.data.numbered number

lemma FelicaListener.Kept.step {e : FelicaEvent} (h : s.Kept t)
    (hstep : (felicaSystem des3).step t e = some s') : s.Kept s' := by
  obtain ⟨hmc, hshadow⟩ := mcShrinks_step h.shadow hstep
  obtain ⟨hA, hB⟩ := regFalls_step hstep
  refine ⟨h.mc.trans hmc, hshadow, ⟨BitVec.le_trans hA h.reg.1, BitVec.le_trans hB h.reg.2⟩,
    fun number hnumber hreadonly => ?_⟩
  rw [← h.readonly number hnumber hreadonly]
  have hreg : felicaBlockIndexReg = 14 := rfl
  cases change_of_step number (blockExists_of_le hnumber)
      (by simp only [felicaBlockIndexMacA]; omega) (by simp only [felicaBlockIndexWcnt]; omega)
      hstep with
  | same h => exact h
  | reset h =>
    simp only [felicaBlockIndexState, felicaBlockIndexMc] at h
    omega
  | write _ hw haccepted =>
    have hwritable := haccepted.writable.writable
    rw [hw, readonly_of_shrinks h.mc hnumber hreadonly] at hwritable
    cases hwritable

lemma kept_of_reaches (h : FelicaMcShrinks s.data.mc s.mcShadow)
    (hrun : (felicaSystem des3).Reaches (fun _ _ => True) s t) : s.Kept t :=
  hrun.invariant ⟨.refl _, h, ⟨BitVec.le_refl _, BitVec.le_refl _⟩, fun _ _ _ => rfl⟩
    fun _ _ _ hkept _ hstep => hkept.step hstep

/-- From any state of a run on, permissions are only taken away, the counters of REG do not rise,
and a read-only block keeps its contents. A block that needs a MAC changes in a Write with one, or
is STATE at a reset, which clears its first byte and the external authentication. -/
theorem felica_permissions_run (des3 : Des3) {data : FelicaData} {s : FelicaListener}
    (hrun : (felicaSystem des3).Reaches (fun _ _ => True) (felicaListenerAlloc data) s) :
    (∀ t, (felicaSystem des3).Reaches (fun _ _ => True) s t → s.Kept t) ∧
      (∀ e s' number, (felicaSystem des3).step s e = some s' →
        felicaBlockRequiresMac s.data number = true →
        s'.data.numbered number ≠ s.data.numbered number →
        s.MacWrite des3 number e ∨ (number = felicaBlockIndexState ∧ e = .fieldOff ∧
          ∀ i ≠ 0, s'.data.state i = s.data.state i)) ∧
      ∀ s', (felicaSystem des3).step s .fieldOff = some s' → s'.external = false := by
  have hinit : FelicaMcShrinks (felicaListenerAlloc data).data.mc
      (felicaListenerAlloc data).mcShadow := by
    have hsame : (felicaListenerAlloc data).data.mc = data.mc :=
      numbered_setNumbered_of_ne (by decide) (by decide) (by decide) _ _
    rw [hsame]
    exact .refl _
  refine ⟨fun t ht => kept_of_reaches (kept_of_reaches hinit hrun).shadow ht,
    fun e s' number hstep hmac hchange => macWrite_of_change hstep hmac hchange,
    fun s' hstep => ?_⟩
  cases hstep
  rfl

/-- A card whose block STATE needs a MAC. -/
def felicaStateMac : FelicaData where
  idm := List.replicate 8 0
  block := fun index i =>
    if index = 23 ∧ i < 3 then 0xFF else if index = 23 ∧ i = 12 then 1 else 0

/-- A Write of RC, which starts a session. -/
def felicaWriteRc : FelicaEvent :=
  felicaFrame ([32, 0x08] ++ List.replicate 8 0 ++ [1, 0x09, 0, 1, 0x80, 0x80] ++
    List.replicate 16 0 ++ [22, 55])

def felicaWriteStateMac : FelicaEvent :=
  felicaFrame ([50, 0x08] ++ List.replicate 8 0 ++ [1, 0x09, 0, 2, 0x80, 0x92, 0x80, 0x91, 1] ++
    List.replicate 31 0 ++ [149, 193])

lemma felicaStateMac_replay :
    ((felicaSystem idleDes3).replay (fun _ _ => True) (felicaListenerAlloc felicaStateMac)
      [felicaWriteRc, felicaWriteStateMac]).map (fun s =>
        felicaBlockRequiresMac s.data felicaBlockIndexState && s.data.state 0 == 1 && s.external) =
      some true := by
  decide +kernel

/-- Behind a Write of RC and one of STATE with a MAC, a reset takes the authentication back. -/
theorem felica_permissions_run_stateMac : ∃ s,
    (felicaSystem idleDes3).replay (fun _ _ => True) (felicaListenerAlloc felicaStateMac)
      [felicaWriteRc, felicaWriteStateMac] = some s ∧
    s.external = true ∧ (felicaListenerReset s).external = false := by
  obtain ⟨s, hreplay, hfacts⟩ := Option.map_eq_some_iff.mp felicaStateMac_replay
  rw [Bool.and_eq_true, Bool.and_eq_true] at hfacts
  exact ⟨s, hreplay, hfacts.2,
    (felica_permissions_run idleDes3 (.of_replay .refl hreplay)).2.2 _ rfl⟩

/-- A reset changes STATE, although the block needs a MAC. -/
theorem felicaListenerReset_changesState :
    ¬∀ (des3 : Des3) (data : FelicaData) (s s' : FelicaListener) (e : FelicaEvent) (number : Nat),
      data.mc 2 = 0x00 ∨ data.mc 2 = 0xFF →
      (felicaSystem des3).Reaches (fun _ _ => True) (felicaListenerAlloc data) s →
      (felicaSystem des3).step s e = some s' → felicaBlockRequiresMac s.data number = true →
      s'.data.numbered number ≠ s.data.numbered number → s.MacWrite des3 number e := by
  intro h
  obtain ⟨s, hreplay, hfacts⟩ := Option.map_eq_some_iff.mp felicaStateMac_replay
  rw [Bool.and_eq_true, Bool.and_eq_true, beq_iff_eq] at hfacts
  obtain ⟨hfacts, -⟩ := hfacts
  obtain ⟨frame, size, blockListSize, mac, he, -⟩ := h idleDes3 felicaStateMac s
    (felicaListenerReset s) .fieldOff felicaBlockIndexState (.inr rfl)
    (.of_replay .refl hreplay) rfl hfacts.1 fun heq => by
      have hstate : (felicaListenerReset s).data.state 0 = s.data.state 0 := congrFun heq 0
      rw [reset_state, Function.update_self, hfacts.2] at hstate
      exact absurd hstate (by decide)
  cases he

end FlipperZero
