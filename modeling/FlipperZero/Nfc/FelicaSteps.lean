import FlipperZero.Foundation.System
import FlipperZero.Nfc.FelicaListener

/-!
# What a step of the FeliCa listener can do

A request is refused and leaves the blocks as they are, or it has passed all its checks. A Read
changes no block but MAC_A. A Write changes the block of its first element and, with a second one,
MAC_A.
-/

namespace FlipperZero

open Foundation Reads

variable {des3 : Des3} {frame : Memory} {s s' : FelicaListener}

/-! ### The block list -/

lemma itemSize_value (frame : Memory) (item : Nat) :
    (felicaItemSize frame item).value = some (if (frame item).getLsbD 7 then 2 else 3) := by
  rw [felicaItemSize, value_bind, value_readAt]
  rfl

lemma itemNumber_value (frame : Memory) (item : Nat) :
    (felicaItemNumber frame item).value = some (frame (item + 1)).toNat := by
  rw [felicaItemNumber, value_bind, value_readAt]
  rfl

lemma itemValidateBlockNumber_value (frame : Memory) (item : Nat) :
    ∃ valid, (felicaItemValidateBlockNumber frame item).value = some valid := by
  rw [felicaItemValidateBlockNumber, value_bind, value_readAt, Option.bind_some]
  split
  · exact ⟨_, rfl⟩
  · rw [value_bind, value_readAt]
    exact ⟨_, rfl⟩

/-! ### The checks of a Write -/

/-- The element of a Write has passed its checks, apart from that of a MAC. -/
structure FelicaWritable (s : FelicaListener) (number : Nat) (withMac : Bool) : Prop where
  exist    : felicaBlockExists number = true
  writable : felicaBlockIsReadonly s.data number = false
  mac      : felicaBlockRequiresMac s.data number = true → withMac = true

/-- The MAC of a Write has passed its check. -/
structure FelicaMacVerified (des3 : Des3) (s : FelicaListener) (value mac : FelicaBlockData) :
    Prop where
  rcWritten : s.rcWritten = true
  mac       : felicaCalculateMacWrite des3 s.sessionKey (s.data.rc.bytes 16)
    ((mac.bytes 11).drop 8) (value.bytes 16) = mac.bytes 8
  counter   : felicaWcntCheckErrorBoundary s.data = some true

/-- What is known when a request is accepted, and when the system has crashed. -/
def FelicaVerdict.Means (accepted crashed : Prop) : FelicaVerdict → Prop
  | .accepted    => accepted
  | .refused _ _ => True
  | .crashed     => crashed

lemma checkMacA_value {dataPos : Nat} {verdict : FelicaVerdict}
    (h : (felicaCheckMacA des3 frame s dataPos).value = some verdict) :
    verdict.Means
      (FelicaMacVerified des3 s (felicaWriteData frame dataPos 0) (felicaWriteData frame dataPos 1))
      (felicaWcntGetMaxValue s.data = none) := by
  simp only [felicaCheckMacA, value_bind, value_readRange, Option.bind_some] at h
  split at h
  · cases Option.some.inj h
    trivial
  next hpasses =>
  simp only [Bool.or_eq_true, Bool.not_eq_true', bne_iff_ne, ne_eq, not_or, Bool.not_eq_false,
    not_not] at hpasses
  cases hcheck : felicaWcntCheckErrorBoundary s.data with
  | none =>
    rw [hcheck] at h
    cases Option.some.inj h
    exact Option.map_eq_none_iff.mp hcheck
  | some b =>
    rw [hcheck] at h
    cases b with
    | false =>
      cases Option.some.inj h
      trivial
    | true =>
      cases Option.some.inj h
      exact ⟨hpasses.1, hpasses.2, hcheck⟩

lemma itemVerdict_cases (head : BitVec 8) (i : Nat) :
    felicaItemVerdict head i = .accepted ∨
      ∃ sf1 sf2, felicaItemVerdict head i = .refused sf1 sf2 := by
  rw [felicaItemVerdict]
  split
  · exact .inr ⟨_, _, rfl⟩
  · split
    · exact .inr ⟨_, _, rfl⟩
    · exact .inl rfl

lemma validateWriteItem_value {dataPos i item : Nat} {withMac : Bool} {verdict : FelicaVerdict}
    (h : (felicaValidateWriteItem des3 frame s dataPos i item withMac).value = some verdict) :
    verdict.Means
      (FelicaWritable s (frame (item + 1)).toNat withMac ∧
        (i = 0 → (frame (item + 1)).toNat ≠ felicaBlockIndexMacA) ∧
        (i = 1 → (frame (item + 1)).toNat = felicaBlockIndexMacA ∧
          FelicaMacVerified des3 s (felicaWriteData frame dataPos 0)
            (felicaWriteData frame dataPos 1)))
      (felicaWcntGetMaxValue s.data = none) := by
  obtain ⟨valid, hvalid⟩ := itemValidateBlockNumber_value frame item
  simp only [felicaValidateWriteItem, value_bind, hvalid, itemNumber_value, Option.bind_some] at h
  split at h
  · cases Option.some.inj h
    trivial
  next hexists =>
  split at h
  · cases Option.some.inj h
    trivial
  next hwritable =>
  simp only [value_bind, value_readAt, Option.bind_some] at h
  rcases itemVerdict_cases (frame item) i with hverdict | ⟨sf1, sf2, hverdict⟩
  · rw [hverdict] at h
    simp only [Bool.or_eq_true, Bool.not_eq_true', Bool.and_eq_true, decide_eq_true_eq, not_or,
      not_and, Bool.not_eq_false, Bool.not_eq_true] at hexists hwritable
    have hfacts : FelicaWritable s (frame (item + 1)).toNat withMac :=
      ⟨hexists.1.2, hwritable.1.1, fun hmac => by simpa using hwritable.1.2 hmac⟩
    simp only at h
    split at h
    next hone =>
      have hmeans := checkMacA_value h
      have hmacA : (frame (item + 1)).toNat = felicaBlockIndexMacA := by
        by_contra hne
        exact hexists.2 hone hne
      cases verdict with
      | accepted    => exact ⟨hfacts, fun hzero => by omega, fun _ => ⟨hmacA, hmeans⟩⟩
      | refused _ _ => trivial
      | crashed     => exact hmeans
    next hone =>
      have hzero : i = 0 → (frame (item + 1)).toNat ≠ felicaBlockIndexMacA := fun hzero heq =>
        hwritable.2 hzero heq
      split at h
      · cases Option.some.inj h
        trivial
      · cases Option.some.inj h
        exact ⟨hfacts, hzero, fun h => absurd h hone⟩
  · rw [hverdict] at h
    cases Option.some.inj h
    trivial

/-- A Write: the block of the first element, its data, and the MAC of a second one. -/
structure FelicaWrite where
  number : Nat
  value : FelicaBlockData
  mac : Option FelicaBlockData

def felicaWriteOf (frame : Memory) (blockListSize : Nat) : FelicaWrite where
  number := (frame 15).toNat
  value := felicaWriteData frame (14 + blockListSize) 0
  mac := if frame 13 = 2 then some (felicaWriteData frame (14 + blockListSize) 1) else none

namespace FelicaWrite

/-- The Write has passed its checks. -/
structure Accepted (des3 : Des3) (s : FelicaListener) (w : FelicaWrite) : Prop where
  writable : FelicaWritable s w.number w.mac.isSome
  notMacA  : w.number ≠ felicaBlockIndexMacA
  verified : ∀ mac, w.mac = some mac → FelicaMacVerified des3 s w.value mac

def apply (des3 : Des3) (w : FelicaWrite) (s : FelicaListener) : FelicaListener :=
  let s := felicaWriteBlock des3 w.number w.value s
  match w.mac with
  | none     => s
  | some mac => felicaWriteBlock des3 felicaBlockIndexMacA mac s

end FelicaWrite

lemma iterate_value (frame : Memory) (budget prevItem itemSize : Nat) :
    ∃ next budget', (felicaListenerBlockListIterate frame budget prevItem itemSize).value =
      some (next, budget') ∧ ∀ item, next = some item → item = prevItem + itemSize := by
  rw [felicaListenerBlockListIterate]
  split
  · rw [value_bind, itemSize_value, Option.bind_some, value_pure]
    generalize (if (frame (prevItem + itemSize)).getLsbD 7 = true then 2 else 3) = size
    by_cases hfits : budget < size
    · rw [if_pos hfits]
      exact ⟨_, _, rfl, nofun⟩
    · rw [if_neg hfits]
      exact ⟨_, _, rfl, fun item h => (Option.some.inj h).symm⟩
  · exact ⟨_, _, rfl, nofun⟩

lemma getFirst_value (frame : Memory) : ∃ first budget,
    (felicaListenerBlockListItemGetFirst frame).value = some (first, budget) ∧
      ∀ item, first = some item → item = 14 := by
  rw [felicaListenerBlockListItemGetFirst, value_bind, value_readAt]
  exact iterate_value _ _ _ _

lemma getNext_value (frame : Memory) (item budget : Nat) : ∃ next budget',
    (felicaListenerBlockListItemGetNext frame item budget).value = some (next, budget') := by
  rw [felicaListenerBlockListItemGetNext, value_bind, itemSize_value, Option.bind_some]
  obtain ⟨next, budget', hvalue, -⟩ := iterate_value frame budget item
    (if (frame item).getLsbD 7 then 2 else 3)
  exact ⟨next, budget', hvalue⟩

/-- The elements of a Write: the second one is there for a MAC. -/
structure FelicaWriteItems (frame : Memory) (blockCount : BitVec 8) : Prop where
  items : ∃ budget next budget',
    (felicaListenerBlockListItemGetFirst frame).value = some (some 14, budget) ∧
    (felicaListenerBlockListItemGetNext frame 14 budget).value = some (next, budget') ∧
    (blockCount = 2 → ∃ second, next = some second ∧
      (frame (second + 1)).toNat = felicaBlockIndexMacA)

lemma validateWriteBlockList_value {blockListSize : Nat} {verdict : FelicaVerdict}
    (hcount : frame 13 = 1 ∨ frame 13 = 2)
    (h : (felicaValidateWriteBlockList des3 frame s (14 + blockListSize) (frame 13)).value =
      some verdict) :
    verdict.Means
      ((felicaWriteOf frame blockListSize).Accepted des3 s ∧ FelicaWriteItems frame (frame 13))
      (felicaWcntGetMaxValue s.data = none) := by
  obtain ⟨item, budget, hfirst, h14⟩ := getFirst_value frame
  simp only [felicaValidateWriteBlockList, value_bind, hfirst, Option.bind_some, value_check] at h
  cases item with
  | none => cases h
  | some first =>
    obtain rfl := h14 first rfl
    obtain ⟨next, budget', hnext⟩ := getNext_value frame 14 budget
    simp only [Option.bind_some, hnext] at h
    rcases hcount with hone | htwo
    · have hne : ¬ (frame 13 = 2) := by rw [hone]; decide
      rw [if_neg hne] at h
      simp only [value_pure, Option.bind_some] at h
      obtain ⟨v, hv, h⟩ := Option.bind_eq_some_iff.mp h
      rw [if_neg fun hin => hne hin.2] at h
      obtain rfl := Option.some.inj h
      have hmeans := validateWriteItem_value hv
      cases v with
      | refused _ _ => trivial
      | crashed     => exact hmeans
      | accepted    =>
        obtain ⟨hwritable, hzero, -⟩ := hmeans
        refine ⟨⟨?_, hzero rfl, fun mac hmac => ?_⟩, ⟨budget, next, budget', hfirst, hnext,
          fun htwo => absurd htwo hne⟩⟩
        · rw [felicaWriteOf, if_neg hne]
          exact hwritable
        · rw [felicaWriteOf, if_neg hne] at hmac
          cases hmac
    · rw [if_pos htwo] at h
      simp only [value_bind, value_check] at h
      cases next with
      | none => cases h
      | some second =>
        simp only [Option.bind_some, itemNumber_value, value_pure] at h
        obtain ⟨v, hv, h⟩ := Option.bind_eq_some_iff.mp h
        have hmeans := validateWriteItem_value hv
        by_cases hacc : v = .accepted
        · rw [if_pos ⟨hacc, htwo⟩] at h
          rw [hacc] at hmeans
          obtain ⟨hwritable, hzero, -⟩ := hmeans
          simp only [value_bind, value_check, Option.bind_some] at h
          have hmeans' := validateWriteItem_value h
          cases verdict with
          | refused _ _ => trivial
          | crashed     => exact hmeans'
          | accepted    =>
            obtain ⟨-, -, hmac⟩ := hmeans'
            obtain ⟨hmacA, hverified⟩ := hmac rfl
            refine ⟨⟨?_, hzero rfl, fun mac hmac => ?_⟩, ⟨budget, some second, budget', hfirst,
              hnext, fun _ => ⟨second, rfl, hmacA⟩⟩⟩
            · rw [felicaWriteOf, if_pos htwo]
              simpa [hmacA] using hwritable
            · rw [felicaWriteOf, if_pos htwo] at hmac
              obtain rfl := Option.some.inj hmac
              exact hverified
        · rw [if_neg fun hin => hacc hin.1] at h
          obtain rfl := Option.some.inj h
          cases v with
          | refused _ _ => trivial
          | crashed     => exact hmeans
          | accepted    => exact absurd rfl hacc

lemma validateWriteRequest_value {blockListSize : Nat} {verdict : FelicaVerdict}
    (h : (felicaListenerValidateWriteRequest des3 frame s (14 + blockListSize)).value =
      some verdict) :
    verdict.Means
      ((felicaWriteOf frame blockListSize).Accepted des3 s ∧ FelicaWriteItems frame (frame 13) ∧
        (frame 13 = 1 ∨ frame 13 = 2))
      (felicaWcntGetMaxValue s.data = none) := by
  simp only [felicaListenerValidateWriteRequest, value_bind, value_readAt, Option.bind_some] at h
  split at h
  · obtain rfl := Option.some.inj h
    trivial
  rw [value_bind, value_readAt, Option.bind_some] at h
  split at h
  · obtain rfl := Option.some.inj h
    trivial
  next hcount =>
  have hcount : frame 13 = 1 ∨ frame 13 = 2 := by
    have hone : (1 : BitVec 8).toNat = 1 := rfl
    have htwo : (2 : BitVec 8).toNat = 2 := rfl
    simp only [BitVec.lt_def, not_or, Nat.not_lt, hone, htwo] at hcount
    have hcases : (frame 13).toNat = 1 ∨ (frame 13).toNat = 2 := by omega
    exact hcases.imp BitVec.eq_of_toNat_eq BitVec.eq_of_toNat_eq
  simp only [value_bind, felicaServiceCode, value_readAt, value_pure, Option.bind_some] at h
  split at h
  · obtain rfl := Option.some.inj h
    trivial
  have hmeans := validateWriteBlockList_value hcount h
  cases verdict with
  | accepted    => exact ⟨hmeans.1, hmeans.2, hcount⟩
  | refused _ _ => trivial
  | crashed     => exact hmeans

/-! ### The steps -/

lemma writeBlocks_value (des3 : Des3) (s : FelicaListener) (blockListSize : Nat)
    (hitems : FelicaWriteItems frame (frame 13)) (hcount : frame 13 = 1 ∨ frame 13 = 2) :
    ∃ first budget, (felicaListenerBlockListItemGetFirst frame).value = some (first, budget) ∧
      (felicaWriteBlocks des3 frame (14 + blockListSize) (frame 13).toNat 0 first budget s).value =
        some ((felicaWriteOf frame blockListSize).apply des3 s) := by
  obtain ⟨budget, next, budget', hfirst, hnext, hsecond⟩ := hitems.items
  refine ⟨some 14, budget, hfirst, ?_⟩
  rcases hcount with hone | htwo
  · have htoNat : (frame 13).toNat = 1 := by rw [hone]; rfl
    have hne : ¬ (frame 13 = 2) := by rw [hone]; decide
    rw [htoNat]
    simp only [felicaWriteBlocks, value_bind, value_check, Option.bind_some, itemNumber_value,
      value_readRange, hnext, value_pure, FelicaWrite.apply, felicaWriteOf, if_neg hne]
  · have htoNat : (frame 13).toNat = 2 := by rw [htwo]; rfl
    obtain ⟨second, rfl, hmacA⟩ := hsecond htwo
    obtain ⟨next', budget'', hnext'⟩ := getNext_value frame second budget'
    rw [htoNat]
    simp only [felicaWriteBlocks, value_bind, value_check, Option.bind_some, itemNumber_value,
      value_readRange, hnext, hnext', value_pure, FelicaWrite.apply, felicaWriteOf, if_pos htwo,
      hmacA]

/-- The outcome of a step but for what has been sent. -/
def FelicaListener.SameButSent (s s' : FelicaListener) : Prop :=
  ∃ sent, s' = { s with sent := sent }

/-- A Write has been carried out, and the write counter counts it. -/
structure FelicaWrite.Done (des3 : Des3) (s : FelicaListener) (w : FelicaWrite)
    (r : Option FelicaListener) : Prop where
  accepted : w.Accepted des3 s
  result   : ∃ sent, r = (felicaWcntIncrement (w.apply des3 s).data).map fun data =>
    { w.apply des3 s with data := data, sent := sent }

lemma writeHandler_refused {blockListSize : Nat} {r : Option FelicaListener}
    (hrefused : (felicaListenerValidateWriteRequest des3 frame s (14 + blockListSize)).value ≠
      some .accepted)
    (h : (felicaListenerCommandHandlerWrite des3 frame s blockListSize).value = some r) :
    (∃ s', r = some s' ∧ s.SameButSent s') ∨
      (r = none ∧ felicaWcntGetMaxValue s.data = none) := by
  simp only [felicaListenerCommandHandlerWrite, value_bind, value_readRange,
    Option.bind_some] at h
  obtain ⟨verdict, hverdict, h⟩ := Option.bind_eq_some_iff.mp h
  have hmeans := validateWriteRequest_value hverdict
  cases verdict with
  | refused sf1 sf2 =>
    obtain rfl := Option.some.inj h
    exact .inl ⟨_, rfl, _, rfl⟩
  | crashed =>
    obtain rfl := Option.some.inj h
    exact .inr ⟨rfl, hmeans⟩
  | accepted => exact absurd hverdict hrefused

lemma writeHandler_accepted {blockListSize : Nat}
    (haccepted : (felicaListenerValidateWriteRequest des3 frame s (14 + blockListSize)).value =
      some .accepted) :
    ∃ r, (felicaListenerCommandHandlerWrite des3 frame s blockListSize).value = some r ∧
      (felicaWriteOf frame blockListSize).Done des3 s r := by
  obtain ⟨hwrite, hitems, hcount⟩ := validateWriteRequest_value haccepted
  obtain ⟨first, budget, hfirst, hblocks⟩ :=
    writeBlocks_value des3 s blockListSize hitems hcount
  simp only [felicaListenerCommandHandlerWrite, value_bind, value_readRange,
    Option.bind_some, haccepted, value_readAt, hfirst, hblocks, value_pure]
  exact ⟨_, rfl, hwrite,
    (((felicaWriteOf frame blockListSize).apply des3 s).respond 0x09 (felicaRequestIdm frame)
      (if felicaWcntCheckWarningBoundary s.data then (0xFF#8, 0x71#8) else (0x00#8, 0x00#8)).1
      (if felicaWcntCheckWarningBoundary s.data then (0xFF#8, 0x71#8) else (0x00#8, 0x00#8)).2
      []).sent, rfl⟩

def FelicaListener.SameButMacA (s s' : FelicaListener) : Prop :=
  ∃ value, s' = { s with data := s.data.setNumbered felicaBlockIndexMacA value }

lemma FelicaListener.SameButMacA.refl (s : FelicaListener) : s.SameButMacA s := by
  refine ⟨s.data.numbered felicaBlockIndexMacA, ?_⟩
  rw [FelicaData.setNumbered, FelicaData.numbered, Function.update_eq_self]

lemma FelicaListener.SameButMacA.trans {s s' s'' : FelicaListener} (h : s.SameButMacA s')
    (h' : s'.SameButMacA s'') : s.SameButMacA s'' := by
  obtain ⟨value, rfl⟩ := h
  obtain ⟨value', rfl⟩ := h'
  exact ⟨value', by simp [FelicaData.setNumbered]⟩

lemma readBlock_sameButMacA (number i blockCount : Nat) (r : FelicaReadState) :
    r.listener.SameButMacA (felicaReadBlock des3 number i blockCount r).listener := by
  rw [felicaReadBlock]
  split
  · exact .refl _
  · split
    · rw [felicaHandlerReadMacABlock]
      split
      · exact .refl _
      · exact ⟨_, rfl⟩
    · exact .refl _

lemma readBlocks_sameButMacA {blockCount n i budget : Nat} {item : Option Nat}
    {r r' : FelicaReadState}
    (h : (felicaReadBlocks des3 frame blockCount n i item budget r).value = some r') :
    r.listener.SameButMacA r'.listener := by
  induction n generalizing i item budget r with
  | zero =>
    obtain rfl := Option.some.inj h
    exact .refl _
  | succ n ih =>
    simp only [felicaReadBlocks, value_bind, value_check] at h
    obtain ⟨item, -, h⟩ := Option.bind_eq_some_iff.mp h
    obtain ⟨next, budget', hnext⟩ := getNext_value frame item budget
    simp only [itemNumber_value, Option.bind_some, hnext] at h
    exact (readBlock_sameButMacA _ _ _ r).trans (ih h)

/-- A Read that has been carried out or refused. -/
def FelicaListener.AfterRead (s s' : FelicaListener) : Prop :=
  ∃ s₁, s.SameButMacA s₁ ∧ s₁.SameButSent s'

lemma validateReadItem_notCrashed {serviceCode i item : Nat} {macA : Option Nat} {mac : Bool}
    {r : FelicaVerdict × Option Nat × Bool}
    (h : (felicaValidateReadItem frame s serviceCode i item macA mac).value = some r) :
    r.1 ≠ .crashed := by
  obtain ⟨valid, hvalid⟩ := itemValidateBlockNumber_value frame item
  simp only [felicaValidateReadItem, value_bind, value_readAt, Option.bind_some] at h
  rcases itemVerdict_cases (frame item) i with hverdict | ⟨sf1, sf2, hverdict⟩
  · rw [hverdict] at h
    simp only [value_bind, hvalid, itemNumber_value, Option.bind_some] at h
    split_ifs at h <;> first
      | (obtain rfl := Option.some.inj h; exact nofun)
      | (split at h <;> (obtain rfl := Option.some.inj h; exact nofun))
  · rw [hverdict] at h
    obtain rfl := Option.some.inj h
    exact nofun

lemma validateReadBlockList_notCrashed {serviceCode n i budget : Nat} {item macA : Option Nat}
    {mac : Bool} {verdict : FelicaVerdict}
    (h : (felicaValidateReadBlockList frame s serviceCode n i item budget macA mac).value =
      some verdict) : verdict ≠ .crashed := by
  induction n generalizing i item budget macA mac with
  | zero =>
    obtain rfl := Option.some.inj h
    exact nofun
  | succ n ih =>
    simp only [felicaValidateReadBlockList, value_bind, value_check] at h
    obtain ⟨item, -, h⟩ := Option.bind_eq_some_iff.mp h
    obtain ⟨r, hr, h⟩ := Option.bind_eq_some_iff.mp h
    have hne := validateReadItem_notCrashed hr
    split at h
    · obtain ⟨next, budget', hnext⟩ := getNext_value frame item budget
      simp only [value_bind, hnext, Option.bind_some] at h
      exact ih h
    · obtain rfl := Option.some.inj h
      exact hne

lemma validateReadRequest_notCrashed {verdict : FelicaVerdict}
    (h : (felicaListenerValidateReadRequest frame s).value = some verdict) :
    verdict ≠ .crashed := by
  simp only [felicaListenerValidateReadRequest, value_bind, value_readAt, Option.bind_some] at h
  split at h
  · obtain rfl := Option.some.inj h
    exact nofun
  rw [value_bind, value_readAt, Option.bind_some] at h
  split at h
  · obtain rfl := Option.some.inj h
    exact nofun
  simp only [value_bind, felicaServiceCode, value_readAt, value_pure, Option.bind_some] at h
  split at h
  · obtain rfl := Option.some.inj h
    exact nofun
  rw [value_bind] at h
  obtain ⟨first, -, h⟩ := Option.bind_eq_some_iff.mp h
  exact validateReadBlockList_notCrashed h

lemma readHandler_value {r : Option FelicaListener}
    (h : (felicaListenerCommandHandlerRead des3 frame s).value = some r) :
    ∃ s', r = some s' ∧ s.AfterRead s' := by
  simp only [felicaListenerCommandHandlerRead, value_bind, value_readRange,
    Option.bind_some] at h
  obtain ⟨verdict, hverdict, h⟩ := Option.bind_eq_some_iff.mp h
  cases verdict with
  | crashed => exact absurd rfl (validateReadRequest_notCrashed hverdict)
  | refused sf1 sf2 =>
    obtain ⟨first, budget, hfirst, -⟩ := getFirst_value frame
    simp only [value_bind, hfirst, Option.bind_some] at h
    obtain rfl := Option.some.inj h
    exact ⟨_, rfl, s, .refl s, _, rfl⟩
  | accepted =>
    obtain ⟨first, budget, hfirst, -⟩ := getFirst_value frame
    simp only [value_bind, value_readAt, hfirst, Option.bind_some] at h
    obtain ⟨r', hr', h⟩ := Option.bind_eq_some_iff.mp h
    obtain rfl := Option.some.inj h
    exact ⟨_, rfl, r'.listener, readBlocks_sameButMacA hr', _, rfl⟩

/-- The request is a Write that passes all checks. -/
structure FelicaAccepts (des3 : Des3) (s : FelicaListener) (frame : Memory) (size : Nat)
    (blockListSize : Nat) : Prop where
  crc     : felicaCrcCheck frame size = true
  length  : (frame 0).toNat = (size - 2) % 256
  list    : (felicaListenerCheckBlockListSize frame).value = some (true, blockListSize)
  idm     : felicaRequestIdm frame = s.data.idm
  code    : frame 1 = 0x08
  verdict : (felicaListenerValidateWriteRequest des3 frame s (14 + blockListSize)).value =
    some .accepted

/-- What one event can do to the listener. -/
inductive FelicaOutcome (des3 : Des3) (s : FelicaListener) : FelicaEvent →
    Option FelicaListener → Prop
  | reset : FelicaOutcome des3 s .fieldOff (some (felicaListenerReset s))
  | other {s' : FelicaListener} (h : s.AfterRead s') : FelicaOutcome des3 s .other (some s')
  | read {frame : Memory} {size : Nat} {s' : FelicaListener}
    (hnone : ∀ blockListSize, ¬ FelicaAccepts des3 s frame size blockListSize)
    (h : s.AfterRead s') : FelicaOutcome des3 s (.received frame size) (some s')
  | crashed {e : FelicaEvent} (h : felicaWcntGetMaxValue s.data = none) :
    FelicaOutcome des3 s e none
  | write {frame : Memory} {size blockListSize : Nat} {r : Option FelicaListener}
    (haccepts : FelicaAccepts des3 s frame size blockListSize)
    (h : (felicaWriteOf frame blockListSize).Done des3 s r) :
    FelicaOutcome des3 s (.received frame size) r

lemma run_of_accepts {size blockListSize : Nat}
    (h : FelicaAccepts des3 s frame size blockListSize) :
    (felicaListenerRun des3 s (.received frame size)).value =
      (felicaListenerCommandHandlerWrite des3 frame s blockListSize).value := by
  have hne : ¬ ((0x08 : BitVec 8) = 0x06) := by decide
  simp only [felicaListenerRun, value_bind, value_readRange, Option.bind_some, h.crc, if_true,
    felicaListenerProcessRequest, value_readAt, h.length, ne_eq, not_true, if_false, h.list,
    Bool.not_true, Bool.false_eq_true, h.idm, h.code, if_neg hne]

/-- Every step that is not stopped is one of these. -/
theorem felicaListenerRun_outcome {e : FelicaEvent} {r : Option FelicaListener}
    (h : (felicaListenerRun des3 s e).value = some r) : FelicaOutcome des3 s e r := by
  have hsame : s.AfterRead s := ⟨s, .refl s, s.sent, rfl⟩
  cases e with
  | fieldOff =>
    obtain rfl := Option.some.inj h
    exact .reset
  | other =>
    obtain rfl := Option.some.inj h
    exact .other hsame
  | received frame size =>
    by_cases haccepts : ∃ blockListSize, FelicaAccepts des3 s frame size blockListSize
    · obtain ⟨blockListSize, haccepts⟩ := haccepts
      obtain ⟨r', hr', hdone⟩ := writeHandler_accepted haccepts.verdict
      rw [run_of_accepts haccepts, hr'] at h
      obtain rfl := Option.some.inj h
      exact .write haccepts hdone
    have hnone := not_exists.mp haccepts
    simp only [felicaListenerRun, value_bind, value_readRange, Option.bind_some] at h
    split at h
    swap
    · obtain rfl := Option.some.inj h
      exact .read hnone hsame
    next hcrc =>
    simp only [felicaListenerProcessRequest, value_bind, value_readAt, Option.bind_some] at h
    split at h
    · obtain rfl := Option.some.inj h
      exact .read hnone hsame
    next hlength =>
    rw [value_bind] at h
    obtain ⟨⟨valid, blockListSize⟩, hlist, h⟩ := Option.bind_eq_some_iff.mp h
    simp only at h
    split at h
    · obtain rfl := Option.some.inj h
      exact .read hnone hsame
    next hvalid =>
    rw [value_bind, value_readRange, Option.bind_some] at h
    split at h
    · obtain rfl := Option.some.inj h
      exact .read hnone hsame
    next hidm =>
    rw [value_bind, value_readAt, Option.bind_some] at h
    split at h
    · obtain ⟨s', rfl, hread⟩ := readHandler_value h
      exact .read hnone hread
    split at h
    next hcode =>
      have hvalid : valid = true := by simpa using hvalid
      have hrefused : (felicaListenerValidateWriteRequest des3 frame s
          (14 + blockListSize)).value ≠ some .accepted := fun hverdict =>
        hnone blockListSize ⟨hcrc, not_not.mp hlength, hvalid ▸ hlist, not_not.mp hidm, hcode,
          hverdict⟩
      rcases writeHandler_refused hrefused h with ⟨s', rfl, hsent⟩ | ⟨rfl, hcrashed⟩
      · exact .read hnone ⟨s, .refl s, hsent⟩
      · exact .crashed hcrashed
    · obtain rfl := Option.some.inj h
      exact .read hnone hsame

/-- The listener as a system; a step that is stopped or crashes has no successor. -/
def felicaSystem (des3 : Des3) : System FelicaListener FelicaEvent where
  step s e := (felicaListenerRun des3 s e).value.join

lemma felicaSystem_outcome {e : FelicaEvent} (h : (felicaSystem des3).step s e = some s') :
    FelicaOutcome des3 s e (some s') := by
  obtain ⟨r, hr, hjoin⟩ := Option.bind_eq_some_iff.mp h
  exact felicaListenerRun_outcome (hr.trans (congrArg some hjoin))

end FlipperZero
