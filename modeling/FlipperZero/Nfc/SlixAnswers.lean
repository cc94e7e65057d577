import FlipperZero.Nfc.Iso15693Session
import FlipperZero.Nfc.SlixListener

/-!
# What the answers of a SLIX card depend on

A standard request is answered in the same way for a card with another UID and with other contents
of its memory, as long as what the request reads of them is the same. Only the inventory and the
system information read the UID, only the reads of blocks read the memory, and the write of the
counter asks whether its increments are protected.
-/

namespace FlipperZero

open Foundation

/-! ### The same listener for another card -/

namespace Iso15693_3Listener

/-- The listener for a card with another UID and with other contents of its memory. -/
def withCard (iso : Iso15693_3Listener) (uid : Fin 8 → BitVec 8) (memory : Memory) :
    Iso15693_3Listener :=
  { iso with data := { iso.data with
      uid := uid
      blockData := ⟨memory, iso.data.blockData.count⟩ } }

/-- What a handler leaves for the answer. -/
def outcome (result : Iso15693_3Error × Iso15693_3Listener) :
    Iso15693_3Error × List (BitVec 8) × Bool :=
  (result.1, result.2.txBuffer, result.2.sessionState.waitForEof)

/-- Two handlers end in the same way: both in a failed check, or with the same for the answer. -/
def SameOutcome (result result' : Option (Iso15693_3Error × Iso15693_3Listener)) : Prop :=
  result.map outcome = result'.map outcome

variable {iso iso' : Iso15693_3Listener} {uid : Fin 8 → BitVec 8} {memory data : Memory}
  {dataSize : Nat} {flags command : BitVec 8} {error : Iso15693_3Error}

section Fields

variable (iso uid memory)

@[simp] lemma withCard_systemInfo :
    (iso.withCard uid memory).data.systemInfo = iso.data.systemInfo := rfl

@[simp] lemma withCard_blockSecurity :
    (iso.withCard uid memory).data.blockSecurity = iso.data.blockSecurity := rfl

@[simp] lemma withCard_blockCount :
    (iso.withCard uid memory).data.blockCount = iso.data.blockCount := rfl

@[simp] lemma withCard_blockSize :
    (iso.withCard uid memory).data.blockSize = iso.data.blockSize := rfl

@[simp] lemma withCard_isBlockLocked (i : Nat) :
    (iso.withCard uid memory).data.isBlockLocked i = iso.data.isBlockLocked i := rfl

@[simp] lemma withCard_sessionState :
    (iso.withCard uid memory).sessionState = iso.sessionState := rfl

@[simp] lemma withCard_txBuffer : (iso.withCard uid memory).txBuffer = iso.txBuffer := rfl

lemma withCard_append (bytes : List (BitVec 8)) :
    (iso.withCard uid memory).append bytes = (iso.append bytes).map (·.withCard uid memory) := by
  unfold append
  rw [withCard_txBuffer]
  split_ifs <;> rfl

lemma withCard_appendField (flag : Bool) (bytes : List (BitVec 8)) :
    (iso.withCard uid memory).appendField flag bytes =
      (iso.appendField flag bytes).map (·.withCard uid memory) := by
  unfold appendField
  split_ifs
  · exact withCard_append iso uid memory bytes
  · rfl

lemma withCard_selectMode (flags : BitVec 8) :
    (iso.withCard uid memory).selectMode flags =
      ((iso.selectMode flags).1, (iso.selectMode flags).2.withCard uid memory) := by
  obtain ⟨card, state, sessionState, txBuffer⟩ := iso
  unfold selectMode
  cases state <;> cases flags.getLsbD 2 <;> cases flags.getLsbD 4 <;> cases flags.getLsbD 5 <;> rfl

end Fields

lemma withCard_appendUid (huid : uid = iso.data.uid) :
    (iso.withCard uid memory).appendUid = iso.appendUid.map (·.withCard uid memory) := by
  subst huid
  exact withCard_append iso _ memory _

lemma withCard_appendBlocksLocked (is : List Nat) :
    ∀ iso : Iso15693_3Listener, appendBlocksLocked is (iso.withCard uid memory) =
      (appendBlocksLocked is iso).map (·.withCard uid memory) := by
  induction is with
  | nil => exact fun _ => rfl
  | cons i is ih =>
    intro iso
    rw [appendBlocksLocked, appendBlocksLocked, withCard_isBlockLocked]
    cases iso.data.isBlockLocked i with
    | none => rfl
    | some locked =>
      simp only [Option.bind_eq_bind, Option.bind_some, withCard_append]
      cases iso.append [if locked then 1 else 0] with
      | none => rfl
      | some iso₁ => exact ih iso₁

lemma apply_ite_congr {α β : Type} (f : α → β) {c c' : Prop} [Decidable c] [Decidable c']
    (hc : c ↔ c') {x x' y y' : α} (hx : c' → f x = f x') (hy : ¬ c' → f y = f y') :
    f (if c then x else y) = f (if c' then x' else y') := by
  by_cases h : c'
  · rw [if_pos (hc.mpr h), if_pos h]
    exact hx h
  · rw [if_neg fun h' => h (hc.mp h'), if_neg h]
    exact hy h

namespace SameOutcome

/-- Going on behind a step that is the same for the other card. -/
lemma bind {x : Option Iso15693_3Listener}
    {f g : Iso15693_3Listener → Option (Iso15693_3Error × Iso15693_3Listener)}
    (h : ∀ iso, x = some iso → SameOutcome (f (iso.withCard uid memory)) (g iso)) :
    SameOutcome ((x.map (·.withCard uid memory)).bind f) (x.bind g) := by
  cases x with
  | none => rfl
  | some iso => exact h iso rfl

lemma ite {c c' : Prop} [Decidable c] [Decidable c']
    {x y x' y' : Option (Iso15693_3Error × Iso15693_3Listener)} (hc : c ↔ c')
    (hx : c' → SameOutcome x x') (hy : ¬ c' → SameOutcome y y') :
    SameOutcome (if c then x else y) (if c' then x' else y') :=
  apply_ite_congr (Option.map outcome) hc hx hy

/-- Handlers that put some card in place, or end in a failed check. -/
lemma of_isSome {x y : Option Iso15693_3Data} (h : x.isSome = y.isSome) {error : Iso15693_3Error}
    {f g : Iso15693_3Data → Iso15693_3Listener}
    (hout : ∀ card card', outcome (error, f card) = outcome (error, g card')) :
    SameOutcome (x.bind fun card => some (error, f card))
      (y.bind fun card => some (error, g card)) := by
  cases x with
  | none =>
    cases y with
    | none => rfl
    | some card' => cases h
  | some card =>
    cases y with
    | none => cases h
    | some card' => exact congrArg some (hout card card')

end SameOutcome

lemma isSome_ite {α : Type} {c c' : Prop} [Decidable c] [Decidable c'] (hc : c ↔ c') (x y : α) :
    (if c then some x else none).isSome = (if c' then some y else none).isSome :=
  apply_ite_congr Option.isSome hc (fun _ => rfl) fun _ => rfl

lemma answer_fst {error error' : Iso15693_3Error}
    (h : outcome (error, iso) = outcome (error', iso')) :
    (iso.answer error).map Prod.fst = (iso'.answer error').map Prod.fst := by
  obtain ⟨rfl, htx, hwait⟩ : error = error' ∧ iso.txBuffer = iso'.txBuffer ∧
      iso.sessionState.waitForEof = iso'.sessionState.waitForEof := by
    simpa [outcome] using h
  unfold answer sendFrame
  by_cases herror : error = .format ∨ error = .ignore
  · rw [if_pos herror, if_pos herror]
    rfl
  · rw [if_neg herror, if_neg herror]
    by_cases hnone : error = .none
    · simp only [if_pos hnone, htx, hwait]
      split_ifs <;> simp
    · simp only [if_neg hnone, hwait]
      split_ifs <;> simp

lemma getSystemInfoHandler_sameOutcome (huid : uid = iso.data.uid) :
    SameOutcome (iso.withCard uid memory).getSystemInfoHandler iso.getSystemInfoHandler := by
  unfold getSystemInfoHandler
  simp only [withCard_systemInfo, withCard_append]
  refine .bind fun iso₁ h₁ => ?_
  rw [withCard_appendUid (huid.trans (congrArg Iso15693_3Data.uid (appends_append h₁).data).symm)]
  refine .bind fun iso₂ _ => ?_
  rw [withCard_appendField]
  refine .bind fun iso₃ _ => ?_
  rw [withCard_appendField]
  refine .bind fun iso₄ _ => ?_
  rw [withCard_appendField]
  refine .bind fun iso₅ _ => ?_
  rw [withCard_appendField]
  exact .bind fun iso₆ _ => rfl

lemma getMultiBlocksSecurityHandler_sameOutcome (data : Memory) (dataSize : Nat) :
    SameOutcome ((iso.withCard uid memory).getMultiBlocksSecurityHandler data dataSize)
      (iso.getMultiBlocksSecurityHandler data dataSize) := by
  unfold getMultiBlocksSecurityHandler
  simp only [withCard_blockCount, withCard_appendBlocksLocked]
  split_ifs
  · rfl
  · rfl
  · exact .bind fun iso₁ _ => rfl

lemma withCard_appendBlock {i : Nat}
    (h : (iso.withCard uid memory).data.block (i % 256) = iso.data.block (i % 256)) :
    (iso.withCard uid memory).appendBlock i = (iso.appendBlock i).map (·.withCard uid memory) := by
  have hbytes : (iso.withCard uid memory).data.blockData.cget (i % 256 * iso.data.blockSize)
      iso.data.blockSize = iso.data.blockData.cget (i % 256 * iso.data.blockSize)
        iso.data.blockSize := by
    unfold SimpleArray.cget
    split_ifs with h₁ h₂ h₂
    · exact congrArg some h
    · exact absurd h₁ h₂
    · exact absurd h₂ h₁
    · rfl
  unfold appendBlock
  rw [withCard_blockSize, hbytes]
  cases iso.data.blockData.cget (i % 256 * iso.data.blockSize) iso.data.blockSize with
  | none => rfl
  | some bytes => exact withCard_append iso uid memory bytes

lemma withCard_appendBlockSecurity (i : Nat) :
    (iso.withCard uid memory).appendBlockSecurity i =
      (iso.appendBlockSecurity i).map (·.withCard uid memory) := by
  unfold appendBlockSecurity
  rw [withCard_blockSecurity]
  cases iso.data.blockSecurity.cget (i % 256) 1 with
  | none => rfl
  | some bytes => exact withCard_append iso uid memory bytes

lemma withCard_appendBlockAnswer {i : Nat}
    (h : (iso.withCard uid memory).data.block (i % 256) = iso.data.block (i % 256)) :
    (iso.withCard uid memory).appendBlockAnswer flags i =
      (iso.appendBlockAnswer flags i).map (·.withCard uid memory) := by
  unfold appendBlockAnswer
  split_ifs
  · rw [withCard_appendBlockSecurity]
    cases hsecurity : iso.appendBlockSecurity i with
    | none => rfl
    | some iso₁ =>
      have hdata : iso₁.data = iso.data := (appends_cget hsecurity).data
      refine withCard_appendBlock ?_
      unfold withCard at h ⊢
      rw [hdata]
      exact h
  · exact withCard_appendBlock h

lemma withCard_appendBlocks (is : List Nat) : ∀ {iso : Iso15693_3Listener},
    (∀ i ∈ is, (iso.withCard uid memory).data.block (i % 256) = iso.data.block (i % 256)) →
      appendBlocks flags is (iso.withCard uid memory) =
        (appendBlocks flags is iso).map (·.withCard uid memory) := by
  induction is with
  | nil => exact fun _ => rfl
  | cons i is ih =>
    intro iso h
    rw [appendBlocks, appendBlocks, withCard_appendBlockAnswer (h i List.mem_cons_self)]
    cases hfirst : iso.appendBlockAnswer flags i with
    | none => rfl
    | some iso₁ =>
      have hdata : iso₁.data = iso.data := (appends_appendBlockAnswer hfirst).data
      refine ih fun j hj => ?_
      have hj := h j (List.mem_cons_of_mem i hj)
      unfold withCard at hj ⊢
      rw [hdata]
      exact hj

/-- The handlers without an extension end in the same way for another card, the one for the system
information if the UID is the same. -/
lemma handler_sameOutcome
    (hextended : command ∉ [0x01#8, 0x20#8, 0x21#8, 0x22#8, 0x23#8, 0x24#8, 0x27#8, 0x28#8])
    (hinfo : command = 0x2B → uid = iso.data.uid) :
    ((iso.withCard uid memory).handler data dataSize flags command).map (Option.map outcome) =
      (iso.handler data dataSize flags command).map (Option.map outcome) := by
  unfold handler
  split
  · exact absurd (by decide) hextended
  · rfl
  · exact absurd (by decide) hextended
  · exact absurd (by decide) hextended
  · exact absurd (by decide) hextended
  · exact absurd (by decide) hextended
  · exact absurd (by decide) hextended
  · unfold selectHandler
    split_ifs <;> rfl
  · rfl
  · exact absurd (by decide) hextended
  · exact absurd (by decide) hextended
  · unfold writeDsfidHandler
    dsimp only [withCard, setWaitForEof]
    split_ifs <;> rfl
  · unfold lockDsfidHandler
    dsimp only [withCard, setWaitForEof]
    split_ifs <;> rfl
  · exact congrArg some (getSystemInfoHandler_sameOutcome (hinfo rfl))
  · exact congrArg some (getMultiBlocksSecurityHandler_sameOutcome data dataSize)
  · rfl

end Iso15693_3Listener

namespace SlixListener

open Iso15693_3Listener

/-- The listener for a card with another UID and with other contents of its memory. -/
def withCard (l : SlixListener) (uid : Fin 8 → BitVec 8) (memory : Memory) : SlixListener :=
  { l with iso := l.iso.withCard uid memory }

def SameCounter (l : SlixListener) (uid : Fin 8 → BitVec 8) (memory : Memory) : Prop :=
  slixIsCounterIncrementProtected (l.withCard uid memory).iso.data =
    slixIsCounterIncrementProtected l.iso.data

instance (l : SlixListener) (uid : Fin 8 → BitVec 8) (memory : Memory) :
    Decidable (l.SameCounter uid memory) := inferInstanceAs (Decidable (_ = _))

/-- What a standard request reads of the card is the same on the other card. -/
structure ReadsSame (l : SlixListener) (uid : Fin 8 → BitVec 8) (memory data : Memory)
    (dataSize : Nat) (command : BitVec 8) : Prop where
  counter : l.SameCounter uid memory
  inventory : command = 0x01 → l.data.privacy = false → uid = l.iso.data.uid
  systemInfo : command = 0x2B → uid = l.iso.data.uid
  readBlock : command = 0x20 → dataSize = 1 → (data 0).toNat < l.iso.data.blockCount →
    l.readBlockExtensionHandler (data 0).toNat = .none →
      (l.iso.withCard uid memory).data.block (data 0).toNat = l.iso.data.block (data 0).toNat
  readMulti : command = 0x23 → dataSize = 2 →
    l.readMultiBlockExtensionHandler (l.multiBlocksRead data) = .none →
      ∀ i ∈ l.multiBlocksRead data,
        (l.iso.withCard uid memory).data.block (i % 256) = l.iso.data.block (i % 256)

variable {l l' : SlixListener} {uid : Fin 8 → BitVec 8} {memory data : Memory} {dataSize : Nat}
  {flags command : BitVec 8} {error : Iso15693_3Error} {iso iso' : Iso15693_3Listener}

/-! ### The answers to standard requests -/

lemma readMultiBlockExtensionHandler_withCard (is : List Nat) :
    (l.withCard uid memory).readMultiBlockExtensionHandler is =
      l.readMultiBlockExtensionHandler is := by
  induction is with
  | nil => rfl
  | cons i is ih =>
    rw [readMultiBlockExtensionHandler, readMultiBlockExtensionHandler, ih]
    rfl

lemma inventoryHandler_sameOutcome (h : l.data.privacy = false → uid = l.iso.data.uid) :
    SameOutcome ((l.withCard uid memory).inventoryHandler data dataSize flags)
      (l.inventoryHandler data dataSize flags) := by
  have hrest : SameOutcome
      (behindExtension l.inventoryExtensionHandler (l.iso.withCard uid memory)
        (((l.iso.withCard uid memory).append [l.iso.data.systemInfo.dsfid]).bind fun iso =>
          iso.appendUid.bind fun iso => some (.none, iso)))
      (behindExtension l.inventoryExtensionHandler l.iso
        ((l.iso.append [l.iso.data.systemInfo.dsfid]).bind fun iso =>
          iso.appendUid.bind fun iso => some (.none, iso))) := by
    unfold behindExtension inventoryExtensionHandler
    by_cases hprivacy : l.data.privacy = true
    · rw [if_pos hprivacy, if_neg nofun, if_neg nofun]
      rfl
    · rw [if_neg hprivacy, if_pos rfl, if_pos rfl, withCard_append]
      refine .bind fun iso₁ h₁ => ?_
      rw [withCard_appendUid ((h (Bool.not_eq_true _ ▸ hprivacy)).trans
        (congrArg Iso15693_3Data.uid (appends_append h₁).data).symm)]
      exact .bind fun iso₂ _ => rfl
  unfold inventoryHandler
  dsimp only [withCard, withCard_systemInfo]
  split_ifs
  all_goals first
    | rfl
    | exact hrest

lemma readBlockHandler_sameOutcome
    (h : dataSize = 1 → (data 0).toNat < l.iso.data.blockCount →
      l.readBlockExtensionHandler (data 0).toNat = .none →
      (l.iso.withCard uid memory).data.block (data 0).toNat = l.iso.data.block (data 0).toNat) :
    SameOutcome ((l.withCard uid memory).readBlockHandler data dataSize flags)
      (l.readBlockHandler data dataSize flags) := by
  have hrest (hsize : dataSize = 1) (hrange : (data 0).toNat < l.iso.data.blockCount) : SameOutcome
      (behindExtension (l.readBlockExtensionHandler (data 0).toNat) (l.iso.withCard uid memory)
        (((l.iso.withCard uid memory).appendBlockAnswer flags (data 0).toNat).bind fun iso =>
          some (.none, iso)))
      (behindExtension (l.readBlockExtensionHandler (data 0).toNat) l.iso
        ((l.iso.appendBlockAnswer flags (data 0).toNat).bind fun iso => some (.none, iso))) := by
    unfold behindExtension
    by_cases hext : l.readBlockExtensionHandler (data 0).toNat = .none
    · have hblock := h hsize hrange hext
      rw [← Nat.mod_eq_of_lt (data 0).isLt] at hblock
      rw [if_pos hext, if_pos hext, withCard_appendBlockAnswer hblock]
      exact .bind fun iso₁ _ => rfl
    · rw [if_neg hext, if_neg hext]
      rfl
  unfold readBlockHandler
  by_cases hsize : dataSize = 1
  · rw [if_neg (not_not.mpr hsize), if_neg (not_not.mpr hsize)]
    by_cases hcount : l.iso.data.blockCount ≤ (data 0).toNat
    · dsimp only
      rw [if_pos (show (l.withCard uid memory).iso.data.blockCount ≤ _ from hcount), if_pos hcount]
      rfl
    · dsimp only
      rw [if_neg (show ¬ (l.withCard uid memory).iso.data.blockCount ≤ _ from hcount),
        if_neg hcount]
      exact hrest hsize (Nat.not_le.mp hcount)
  · rw [if_pos hsize, if_pos hsize]
    rfl

lemma readMultiBlocksHandler_sameOutcome
    (h : dataSize = 2 → l.readMultiBlockExtensionHandler (l.multiBlocksRead data) = .none →
      ∀ i ∈ l.multiBlocksRead data,
        (l.iso.withCard uid memory).data.block (i % 256) = l.iso.data.block (i % 256)) :
    SameOutcome ((l.withCard uid memory).readMultiBlocksHandler data dataSize flags)
      (l.readMultiBlocksHandler data dataSize flags) := by
  have hblocks : (l.withCard uid memory).multiBlocksRead data = l.multiBlocksRead data := rfl
  unfold readMultiBlocksHandler
  dsimp only
  rw [hblocks, readMultiBlockExtensionHandler_withCard]
  unfold behindExtension
  split_ifs with hsize hext
  · rfl
  · change SameOutcome (Option.bind (appendBlocks _ _ (l.iso.withCard uid memory)) _) _
    rw [withCard_appendBlocks _ (h (not_not.mp hsize) hext)]
    exact .bind fun iso₁ _ => rfl
  · rfl

/-- What becomes of a write request behind the lock of its block. -/
def writeBlockRest (l : SlixListener) (iso : Iso15693_3Listener) (data : Memory) (dataSize : Nat) :
    Option (Iso15693_3Error × Iso15693_3Listener) := do
  match ← l.writeBlockExtensionHandler (data 0).toNat fun j => data (1 + j) with
  | .error error => some (error, iso)
  | .ok (some card) => some (.none, { iso with data := card })
  | .ok none =>
    let card ← iso.data.setBlockData (data 0).toNat
      ((List.range (dataSize - 1)).map fun j => data (1 + j))
    some (.none, { iso with data := card })

lemma withCard_getBlockData (i : Nat) :
    ((iso.withCard uid memory).data.getBlockData i).isSome = (iso.data.getBlockData i).isSome :=
  isSome_ite Iff.rfl _ _

lemma withCard_setBlockData (i : Nat) (bytes bytes' : List (BitVec 8)) :
    ((iso.withCard uid memory).data.setBlockData i bytes).isSome =
      (iso.data.setBlockData i bytes').isSome :=
  isSome_ite Iff.rfl _ _

lemma withCard_incrementCounter :
    (slixIncrementCounter (iso.withCard uid memory).data).isSome =
      (slixIncrementCounter iso.data).isSome := by
  have hget : ((iso.withCard uid memory).data.getBlockData 79).isSome =
      (iso.data.getBlockData 79).isSome := withCard_getBlockData 79
  unfold slixIncrementCounter
  cases h : (iso.withCard uid memory).data.getBlockData 79 with
  | none =>
    cases h' : iso.data.getBlockData 79 with
    | none => rfl
    | some counter' =>
      rw [h, h'] at hget
      cases hget
  | some counter =>
    cases h' : iso.data.getBlockData 79 with
    | none =>
      rw [h, h'] at hget
      cases hget
    | some counter' => exact withCard_setBlockData _ _ _

lemma writeBlockRest_sameOutcome (h : l.SameCounter uid memory) (iso : Iso15693_3Listener) :
    SameOutcome ((l.withCard uid memory).writeBlockRest (iso.withCard uid memory) data dataSize)
      (l.writeBlockRest iso data dataSize) := by
  unfold writeBlockRest writeBlockExtensionHandler
  by_cases hcounter : (data 0).toNat = 79 ∧ Memory.load 32 (fun j => data (1 + j)) 0 = 1
  · rw [if_pos hcounter, if_pos hcounter, h]
    cases slixIsCounterIncrementProtected l.iso.data with
    | none => rfl
    | some increment =>
      have hlock : (l.withCard uid memory).isPasswordLockEnabled .read =
          l.isPasswordLockEnabled .read := rfl
      simp only [Option.bind_eq_bind, Option.bind_some, hlock]
      cases increment && l.isPasswordLockEnabled .read with
      | true => rfl
      | false =>
        simp only [Bool.false_eq_true, if_false, Option.bind_map]
        exact .of_isSome withCard_incrementCounter fun _ _ => rfl
  · rw [if_neg hcounter, if_neg hcounter]
    have hread : (l.withCard uid memory).isBlockRefused .read (data 0).toNat =
        l.isBlockRefused .read (data 0).toNat := rfl
    have hwrite : (l.withCard uid memory).isBlockRefused .write (data 0).toNat =
        l.isBlockRefused .write (data 0).toNat := rfl
    rw [hread, hwrite]
    by_cases hr : (data 0).toNat ≠ 79 ∧ l.isBlockRefused .read (data 0).toNat = true
    · rw [if_pos hr]
      rfl
    · rw [if_neg hr]
      by_cases hw : l.isBlockRefused .write (data 0).toNat = true
      · rw [if_pos hw]
        rfl
      · rw [if_neg hw]
        exact .of_isSome (withCard_setBlockData _ _ _) fun _ _ => rfl

lemma writeBlockHandler_sameOutcome (h : l.SameCounter uid memory) :
    SameOutcome ((l.withCard uid memory).writeBlockHandler data dataSize flags)
      (l.writeBlockHandler data dataSize flags) := by
  refine .ite Iff.rfl (fun _ => rfl) fun _ => .ite Iff.rfl (fun _ => rfl) fun _ =>
    .ite Iff.rfl (fun _ => rfl) fun _ => ?_
  have hlocked : ((l.withCard uid memory).iso.setWaitForEof flags).data.isBlockLocked
      (data 0).toNat = (l.iso.setWaitForEof flags).data.isBlockLocked (data 0).toNat := rfl
  rw [hlocked]
  cases (l.iso.setWaitForEof flags).data.isBlockLocked (data 0).toNat with
  | none => rfl
  | some locked =>
    cases locked with
    | true => rfl
    | false => exact writeBlockRest_sameOutcome h (l.iso.setWaitForEof flags)

lemma lockBlockHandler_sameOutcome :
    SameOutcome ((l.withCard uid memory).lockBlockHandler data dataSize flags)
      (l.lockBlockHandler data dataSize flags) := by
  refine .ite Iff.rfl (fun _ => rfl) fun _ => .ite Iff.rfl (fun _ => rfl) fun _ => ?_
  have hlocked : ((l.withCard uid memory).iso.setWaitForEof flags).data.isBlockLocked
      (data 0).toNat = (l.iso.setWaitForEof flags).data.isBlockLocked (data 0).toNat := rfl
  rw [hlocked]
  cases (l.iso.setWaitForEof flags).data.isBlockLocked (data 0).toNat with
  | none => rfl
  | some locked =>
    cases locked with
    | true => rfl
    | false =>
      refine .ite Iff.rfl (fun _ => ?_) fun _ => rfl
      exact .of_isSome (isSome_ite Iff.rfl _ _) fun _ _ => rfl

lemma writeMultiBlocksHandler_sameOutcome :
    SameOutcome ((l.withCard uid memory).writeMultiBlocksHandler data dataSize flags)
      (l.writeMultiBlocksHandler data dataSize flags) :=
  .ite Iff.rfl (fun _ => rfl) fun _ => .ite Iff.rfl (fun _ => rfl) fun _ =>
    .ite Iff.rfl (fun _ => rfl) fun _ => rfl

lemma writeAfiHandler_sameOutcome :
    SameOutcome ((l.withCard uid memory).writeAfiHandler data dataSize flags)
      (l.writeAfiHandler data dataSize flags) :=
  .ite Iff.rfl (fun _ => rfl) fun _ => .ite Iff.rfl (fun _ => rfl) fun _ =>
    .ite Iff.rfl (fun _ => rfl) fun _ => rfl

lemma lockAfiHandler_sameOutcome :
    SameOutcome ((l.withCard uid memory).lockAfiHandler flags) (l.lockAfiHandler flags) :=
  .ite Iff.rfl (fun _ => rfl) fun _ => .ite Iff.rfl (fun _ => rfl) fun _ => rfl

lemma handler_sameOutcome (flags : BitVec 8) (h : l.ReadsSame uid memory data dataSize command) :
    ((l.withCard uid memory).handler data dataSize flags command).map (Option.map outcome) =
      (l.handler data dataSize flags command).map (Option.map outcome) := by
  unfold handler
  split
  · exact congrArg some (inventoryHandler_sameOutcome (h.inventory rfl))
  · exact congrArg some (readBlockHandler_sameOutcome (h.readBlock rfl))
  · exact congrArg some (writeBlockHandler_sameOutcome h.counter)
  · exact congrArg some lockBlockHandler_sameOutcome
  · exact congrArg some (readMultiBlocksHandler_sameOutcome (h.readMulti rfl))
  · exact congrArg some writeMultiBlocksHandler_sameOutcome
  · exact congrArg some writeAfiHandler_sameOutcome
  · exact congrArg some lockAfiHandler_sameOutcome
  · refine Iso15693_3Listener.handler_sameOutcome ?_ h.systemInfo
    simp only [List.mem_cons, List.not_mem_nil, or_false, not_or]
    refine ⟨?_, ?_, ?_, ?_, ?_, ?_, ?_, ?_⟩ <;> assumption

end SlixListener

end FlipperZero
