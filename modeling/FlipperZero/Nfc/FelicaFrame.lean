import FlipperZero.Nfc.FelicaCounter

/-!
# What the FeliCa listener reads of a frame

Every pass through the block list goes along the same positions, each with its own budget. The
counting pass takes the data of a Write off the budget and is not limited by the number of elements
that the request announces, which the position of the data depends on.
-/

namespace FlipperZero

open Foundation Reads

variable {des3 : Des3} {frame : Memory} {s : FelicaListener} {n : Nat}

/-! ### Positions -/

/-- The size of the element at a position. -/
def felicaSizeAt (frame : Memory) (item : Nat) : Nat := if (frame item).getLsbD 7 then 2 else 3

/-- Where an element starts when those in front of it are read one after the other. -/
def felicaListPos (frame : Memory) : Nat → Nat
  | 0     => 14
  | k + 1 => felicaListPos frame k + felicaSizeAt frame (felicaListPos frame k)

/-- The budget that a pass starts with. -/
def felicaRequestRoom (frame : Memory) : Nat := ((frame 0).toNat + 256 - 14) % 256

/-- The end of the bytes that the budget allows. -/
def felicaRequestEnd (frame : Memory) : Nat := 14 + felicaRequestRoom frame

lemma sizeAt_cases (frame : Memory) (item : Nat) :
    felicaSizeAt frame item = 2 ∨ felicaSizeAt frame item = 3 := by
  rw [felicaSizeAt]
  split
  · exact .inl rfl
  · exact .inr rfl

lemma listPos_succ (frame : Memory) (k : Nat) : felicaListPos frame (k + 1) =
    felicaListPos frame k + felicaSizeAt frame (felicaListPos frame k) := rfl

lemma listPos_lt_succ (frame : Memory) (k : Nat) :
    felicaListPos frame k + 2 ≤ felicaListPos frame (k + 1) := by
  have hsize := sizeAt_cases frame (felicaListPos frame k)
  have hsucc := listPos_succ frame k
  omega

lemma listPos_mono (frame : Memory) {k k' : Nat} (h : k ≤ k') :
    felicaListPos frame k ≤ felicaListPos frame k' := by
  induction h with
  | refl          => exact Nat.le_refl _
  | step _ ih =>
    exact ih.trans (Nat.le_of_add_right_le (listPos_lt_succ frame _))

/-! ### One element -/

lemma value_itemSize (frame : Memory) (item : Nat) :
    (felicaItemSize frame item).value = some (felicaSizeAt frame item) := itemSize_value frame item

lemma itemSize_inside {item : Nat} : (felicaItemSize frame item).Inside n ↔ item < n := by
  rw [felicaItemSize, inside_readAt_bind]
  simp

lemma iterate_inside {budget prevItem itemSize : Nat} (h : prevItem + itemSize + budget ≤ n) :
    (felicaListenerBlockListIterate frame budget prevItem itemSize).Inside n := by
  rw [felicaListenerBlockListIterate]
  split
  · rw [inside_bind_of_value (value_itemSize _ _), itemSize_inside]
    exact ⟨by omega, inside_pure _⟩
  · exact inside_pure _

/-- The next element is there when the budget has room for it. -/
lemma iterate_value_of_fits {budget prevItem itemSize : Nat}
    (h : felicaSizeAt frame (prevItem + itemSize) ≤ budget) :
    (felicaListenerBlockListIterate frame budget prevItem itemSize).value =
      some (some (prevItem + itemSize), budget - felicaSizeAt frame (prevItem + itemSize)) := by
  have hsize := sizeAt_cases frame (prevItem + itemSize)
  rw [felicaListenerBlockListIterate, if_pos (by omega), value_bind, value_itemSize,
    Option.bind_some, if_neg (by omega), value_pure]

lemma iterate_value_of_lt {budget prevItem itemSize : Nat}
    (h : budget < felicaSizeAt frame (prevItem + itemSize)) : ∃ budget',
    (felicaListenerBlockListIterate frame budget prevItem itemSize).value =
      some (none, budget') := by
  rw [felicaListenerBlockListIterate]
  split
  · rw [value_bind, value_itemSize, Option.bind_some, if_pos h]
    exact ⟨_, rfl⟩
  · exact ⟨_, rfl⟩

lemma getNext_inside {k budget : Nat} (h : felicaListPos frame (k + 1) + budget ≤ n) :
    (felicaListenerBlockListItemGetNext frame (felicaListPos frame k) budget).Inside n := by
  have hlt := listPos_lt_succ frame k
  rw [felicaListenerBlockListItemGetNext, inside_bind_of_value (value_itemSize _ _),
    itemSize_inside]
  exact ⟨by omega, iterate_inside h⟩

lemma getNext_value_of_fits {k budget : Nat}
    (h : felicaSizeAt frame (felicaListPos frame (k + 1)) ≤ budget) :
    (felicaListenerBlockListItemGetNext frame (felicaListPos frame k) budget).value =
      some (some (felicaListPos frame (k + 1)),
        budget - felicaSizeAt frame (felicaListPos frame (k + 1))) := by
  rw [felicaListenerBlockListItemGetNext, value_bind, value_itemSize, Option.bind_some]
  exact iterate_value_of_fits h

lemma getNext_value_of_lt {k budget : Nat}
    (h : budget < felicaSizeAt frame (felicaListPos frame (k + 1))) : ∃ budget',
    (felicaListenerBlockListItemGetNext frame (felicaListPos frame k) budget).value =
      some (none, budget') := by
  rw [felicaListenerBlockListItemGetNext, value_bind, value_itemSize, Option.bind_some]
  exact iterate_value_of_lt h

lemma getFirst_inside (hn : felicaRequestEnd frame ≤ n) :
    (felicaListenerBlockListItemGetFirst frame).Inside n := by
  rw [felicaRequestEnd] at hn
  rw [felicaListenerBlockListItemGetFirst, inside_readAt_bind]
  exact ⟨by omega, iterate_inside hn⟩

lemma itemNumber_inside {item : Nat} : (felicaItemNumber frame item).Inside n ↔ item + 1 < n := by
  rw [felicaItemNumber, inside_readAt_bind]
  simp

lemma itemValidateBlockNumber_inside {k : Nat} (h : felicaListPos frame (k + 1) ≤ n) :
    (felicaItemValidateBlockNumber frame (felicaListPos frame k)).Inside n := by
  have hlt := listPos_lt_succ frame k
  rw [felicaItemValidateBlockNumber, inside_readAt_bind]
  refine ⟨by omega, ?_⟩
  split
  · exact inside_pure _
  next hlong =>
  rw [listPos_succ, felicaSizeAt, if_neg hlong] at h
  rw [inside_readAt_bind]
  exact ⟨by omega, inside_pure _⟩

/-! ### The counting pass -/

/-- What the counting pass returns: the elements that it has counted lie in the request. -/
structure FelicaCounted (frame : Memory) (least most : Nat) (r : Nat × Nat) : Prop where
  least    : least ≤ r.1
  most     : r.1 ≤ most
  listSize : 14 + r.2 = felicaListPos frame r.1
  inside   : felicaListPos frame r.1 ≤ felicaRequestEnd frame

lemma countItems_counted (isWrite : Bool) (rounds k : Nat) {budget listSize : Nat}
    (hn : felicaRequestEnd frame ≤ n)
    (hbudget : felicaListPos frame (k + 1) + budget ≤ felicaRequestEnd frame)
    (hlistSize : 14 + listSize = felicaListPos frame k) :
    (felicaCountItems frame isWrite (rounds + 1) (some (felicaListPos frame k)) budget k
        listSize).Inside n ∧
      ∃ r, (felicaCountItems frame isWrite (rounds + 1) (some (felicaListPos frame k)) budget k
        listSize).value = some r ∧ FelicaCounted frame (k + 1) (k + rounds + 1) r := by
  have hlt := listPos_lt_succ frame k
  have hrest : (if isWrite then budget - 16 else budget) ≤ budget := by
    split <;> omega
  have hlistSize' : 14 + (listSize + felicaSizeAt frame (felicaListPos frame k)) =
      felicaListPos frame (k + 1) := by
    rw [listPos_succ, ← hlistSize, Nat.add_assoc]
  have hnext : (felicaListenerBlockListItemGetNext frame (felicaListPos frame k)
      (if isWrite then budget - 16 else budget)).Inside n := getNext_inside (by omega)
  rw [felicaCountItems, inside_bind_of_value (value_itemSize _ _), value_bind, value_itemSize,
    Option.bind_some, itemSize_inside, value_bind]
  generalize (if isWrite then budget - 16 else budget) = rest at hrest hnext ⊢
  have hstop : FelicaCounted frame (k + 1) (k + rounds + 1)
      (k + 1, listSize + felicaSizeAt frame (felicaListPos frame k)) :=
    ⟨Nat.le_refl _, by omega, hlistSize', Nat.le_of_add_right_le hbudget⟩
  by_cases hfits : felicaSizeAt frame (felicaListPos frame (k + 1)) ≤ rest
  · rw [inside_bind_of_value (getNext_value_of_fits hfits), getNext_value_of_fits hfits,
      Option.bind_some]
    cases rounds with
    | zero        => exact ⟨⟨by omega, hnext, inside_pure _⟩, _, rfl, hstop⟩
    | succ rounds =>
      have hsucc : felicaListPos frame (k + 2) =
        felicaListPos frame (k + 1) + felicaSizeAt frame (felicaListPos frame (k + 1)) := rfl
      obtain ⟨hinside, r, hr, hcounted⟩ := countItems_counted isWrite rounds (k + 1) hn
        (show felicaListPos frame (k + 2) +
          (rest - felicaSizeAt frame (felicaListPos frame (k + 1))) ≤ _ by omega) hlistSize'
      exact ⟨⟨by omega, hnext, hinside⟩, r, hr, ⟨by have := hcounted.least; omega,
        by have := hcounted.most; omega, hcounted.listSize, hcounted.inside⟩⟩
  · obtain ⟨budget', hnone⟩ := getNext_value_of_lt (Nat.lt_of_not_le hfits)
    rw [inside_bind_of_value hnone, hnone, Option.bind_some]
    cases rounds <;> exact ⟨⟨by omega, hnext, inside_pure _⟩, _, rfl, hstop⟩

lemma countItems_write (frame : Memory) (budget : Nat) : ∃ r,
    (felicaCountItems frame true 2 (some 14) budget 0 0).value = some r ∧
      r.1 = if felicaSizeAt frame (felicaListPos frame 1) + 16 ≤ budget then 2 else 1 := by
  have hsize := sizeAt_cases frame (felicaListPos frame 1)
  by_cases hfits : felicaSizeAt frame (felicaListPos frame 1) + 16 ≤ budget
  · have hnext : (felicaListenerBlockListItemGetNext frame 14 (budget - 16)).value =
        some (some (felicaListPos frame 1),
          budget - 16 - felicaSizeAt frame (felicaListPos frame 1)) :=
      getNext_value_of_fits (k := 0) (Nat.le_sub_of_add_le hfits)
    obtain ⟨next, budget', hvalue⟩ := getNext_value frame (felicaListPos frame 1)
      (budget - 16 - felicaSizeAt frame (felicaListPos frame 1) - 16)
    rw [if_pos hfits]
    simp only [felicaCountItems, value_bind, value_itemSize, Option.bind_some, if_true, hnext,
      hvalue]
    exact ⟨_, rfl, rfl⟩
  · obtain ⟨budget', hnone⟩ : ∃ budget', (felicaListenerBlockListItemGetNext frame 14
        (budget - 16)).value = some (none, budget') :=
      getNext_value_of_lt (k := 0) (show budget - 16 < felicaSizeAt frame (felicaListPos frame 1)
        by omega)
    rw [if_neg hfits]
    simp only [felicaCountItems, value_bind, value_itemSize, Option.bind_some, if_true, hnone]
    exact ⟨_, rfl, rfl⟩

/-- The elements that the counting pass finds in a Write that has some. -/
def felicaWriteCount (frame : Memory) : Nat :=
  if felicaListPos frame 2 + 16 ≤ felicaRequestEnd frame then 2 else 1

lemma getFirst_value_of_fits (h : felicaListPos frame 1 ≤ felicaRequestEnd frame) :
    (felicaListenerBlockListItemGetFirst frame).value =
      some (some 14, felicaRequestEnd frame - felicaListPos frame 1) := by
  have hpos : felicaListPos frame 1 = 14 + felicaSizeAt frame 14 := rfl
  have hend : felicaRequestEnd frame = 14 + felicaRequestRoom frame := rfl
  have hfits : felicaSizeAt frame (14 + 0) ≤ felicaRequestRoom frame :=
    show felicaSizeAt frame 14 ≤ _ by omega
  rw [felicaListenerBlockListItemGetFirst, value_bind, value_readAt, Option.bind_some]
  refine (iterate_value_of_fits hfits).trans ?_
  rw [hpos, hend, Nat.add_sub_add_left]

lemma getFirst_value_of_lt (h : felicaRequestEnd frame < felicaListPos frame 1) : ∃ budget,
    (felicaListenerBlockListItemGetFirst frame).value = some (none, budget) := by
  have hpos : felicaListPos frame 1 = 14 + felicaSizeAt frame 14 := rfl
  have hend : felicaRequestEnd frame = 14 + felicaRequestRoom frame := rfl
  rw [felicaListenerBlockListItemGetFirst, value_bind, value_readAt, Option.bind_some]
  exact iterate_value_of_lt (show felicaRequestRoom frame < felicaSizeAt frame (14 + 0) from
    show _ < felicaSizeAt frame 14 by omega)

lemma countSize_counted (hn : felicaRequestEnd frame ≤ n) :
    (felicaListenerGetBlockListItemCountSize frame).Inside n ∧
      ∃ r, (felicaListenerGetBlockListItemCountSize frame).value = some r ∧ (0 < r.1 →
        FelicaCounted frame 1 (if frame 1 = 0x06 then 4 else 2) r ∧
        (frame 1 = 0x08 → r.1 = felicaWriteCount frame)) := by
  have hend : felicaRequestEnd frame = 14 + felicaRequestRoom frame := rfl
  have hfirst := getFirst_inside hn
  rw [felicaListenerGetBlockListItemCountSize, inside_readAt_bind, value_bind, value_readAt,
    Option.bind_some, value_bind]
  rcases Nat.lt_or_ge (felicaRequestEnd frame) (felicaListPos frame 1) with hlt | hle
  · obtain ⟨budget, hnone⟩ := getFirst_value_of_lt hlt
    rw [inside_bind_of_value hnone, hnone, Option.bind_some]
    have hstop (rounds : Nat) :
        felicaCountItems frame (frame 1 == 0x08) rounds none budget 0 0 = pure (0, 0) := by
      cases rounds <;> rfl
    simp only [hstop]
    exact ⟨⟨by omega, hfirst, inside_pure _⟩, _, rfl, nofun⟩
  · have hvalue := getFirst_value_of_fits hle
    rw [inside_bind_of_value hvalue, hvalue, Option.bind_some]
    have hcount (rounds : Nat) := countItems_counted (frame 1 == 0x08) rounds 0 hn
      (Nat.add_sub_of_le hle).le (Nat.add_zero 14)
    by_cases hread : frame 1 = 0x06
    · obtain ⟨hinside, r, hr, hcounted⟩ := hcount 3
      simp only [if_pos hread]
      exact ⟨⟨by omega, hfirst, hinside⟩, r, hr, fun _ => ⟨hcounted,
        fun hwrite => absurd (hread.symm.trans hwrite) (by decide)⟩⟩
    · obtain ⟨hinside, r, hr, hcounted⟩ := hcount 1
      simp only [if_neg hread]
      refine ⟨⟨by omega, hfirst, hinside⟩, r, hr, fun _ => ⟨hcounted, fun hwrite => ?_⟩⟩
      obtain ⟨r', hr', hcnt⟩ := countItems_write frame
        (felicaRequestEnd frame - felicaListPos frame 1)
      have hsame : r = r' := by
        have htrue : (frame 1 == 0x08) = true := beq_iff_eq.mpr hwrite
        rw [htrue] at hr
        exact Option.some.inj (hr.symm.trans hr')
      have hsucc : felicaListPos frame 2 =
        felicaListPos frame 1 + felicaSizeAt frame (felicaListPos frame 1) := rfl
      rw [hsame, hcnt, felicaWriteCount]
      by_cases htwo : felicaListPos frame 2 + 16 ≤ felicaRequestEnd frame
      · rw [if_pos htwo, if_pos (by omega)]
      · rw [if_neg htwo, if_neg (by omega)]

/-- What has been checked of a block list: the elements that the request announces are there, and
there are data for those of a Write that have been counted. -/
structure FelicaListChecked (frame : Memory) (blockListSize : Nat) : Prop where
  first     : felicaListPos frame 1 ≤ felicaRequestEnd frame
  announced : felicaListenerTestBlockListSizeBounds (frame 1) (frame 13) = true →
    felicaListPos frame (frame 13).toNat ≤ felicaRequestEnd frame
  listSize  : frame 1 = 0x08 → 14 + blockListSize = felicaListPos frame (felicaWriteCount frame)
  data      : frame 1 = 0x08 →
    14 + blockListSize + 16 * felicaWriteCount frame ≤ felicaRequestEnd frame
  count     : frame 1 = 0x08 →
    felicaListenerTestBlockListSizeBounds (frame 1) (frame 13) = true →
    (frame 13).toNat ≤ felicaWriteCount frame

lemma checkBlockListSize_checked (hn : felicaRequestEnd frame ≤ n) :
    (felicaListenerCheckBlockListSize frame).Inside n ∧
      ∃ valid blockListSize, (felicaListenerCheckBlockListSize frame).value =
        some (valid, blockListSize) ∧ (valid = true → FelicaListChecked frame blockListSize) := by
  have hend : felicaRequestEnd frame = 14 + felicaRequestRoom frame := rfl
  obtain ⟨hinside, ⟨cnt, listSize⟩, hr, hcounted⟩ := countSize_counted hn
  rw [felicaListenerCheckBlockListSize, inside_bind_of_value hr, value_bind, hr, Option.bind_some]
  simp only [inside_readAt_bind, value_bind, value_readAt, Option.bind_some]
  by_cases hcode : frame 1 = 0x06 ∨ frame 1 = 0x08
  · simp only [if_pos hcode, inside_bind, value_bind, value_readAt, Option.bind_some, value_pure]
    have hread (i : Nat) (hi : i < 14) : (readAt frame i).Inside n :=
      inside_readAt.mpr (by omega)
    refine ⟨⟨hinside, by omega, ⟨hread 13 (by decide), fun _ _ => inside_pure _⟩, fun _ _ =>
      ⟨hread 0 (by decide), fun _ _ => inside_pure _⟩⟩, _, _, rfl, fun hvalid => ?_⟩
    rw [Bool.and_eq_true, Bool.and_eq_true, Bool.not_eq_true', Bool.and_eq_false_iff,
      decide_eq_true_eq, decide_eq_false_iff_not, Nat.not_lt] at hvalid
    obtain ⟨⟨hpos, henough⟩, hdata⟩ := hvalid
    obtain ⟨hcounted, hwrite⟩ := hcounted hpos
    have hannounced (hbounds : felicaListenerTestBlockListSizeBounds (frame 1) (frame 13) = true) :
        (frame 13).toNat ≤ cnt := henough.resolve_left (by rw [hbounds]; decide)
    have hlist : 14 + listSize = felicaListPos frame cnt := hcounted.listSize
    have hcountedInside : felicaListPos frame cnt ≤ felicaRequestEnd frame := hcounted.inside
    refine ⟨(listPos_mono frame hpos).trans hcountedInside,
      fun hbounds => (listPos_mono frame (hannounced hbounds)).trans hcountedInside,
      fun h => ?_, fun h => ?_, fun h hbounds => ?_⟩
    · rw [← hwrite h]
      exact hlist
    · have hmost : cnt ≤ 2 := by
        have hle : cnt ≤ if frame 1 = 0x06 then 4 else 2 := hcounted.most
        rwa [h, if_neg (by decide)] at hle
      have hcnt : cnt = felicaWriteCount frame := hwrite h
      simp only [h, bne_self_eq_false, Bool.false_or,
        felicaListenerCheckWriteRequestDataSize, decide_eq_true_eq] at hdata
      rw [← hcnt]
      rw [felicaRequestRoom] at hend
      omega
    · rw [← hwrite h]
      exact hannounced hbounds
  · obtain ⟨hnotRead, hnotWrite⟩ := not_or.mp hcode
    simp only [if_neg hcode, inside_bind, value_pure, Option.bind_some]
    refine ⟨⟨hinside, by omega, inside_pure _, fun _ _ => ⟨inside_readAt.mpr (by omega),
      fun _ _ => inside_pure _⟩⟩, _, _, rfl, fun hvalid => ?_⟩
    rw [Bool.and_eq_true, Bool.and_eq_true, decide_eq_true_eq] at hvalid
    have hpos : 0 < cnt := hvalid.1.1
    refine ⟨(listPos_mono frame hpos).trans (hcounted hpos).1.inside, fun hbounds => ?_,
      fun h => absurd h hnotWrite, fun h => absurd h hnotWrite, fun h => absurd h hnotWrite⟩
    rw [felicaListenerTestBlockListSizeBounds, if_neg hnotRead, if_neg hnotWrite] at hbounds
    cases hbounds

/-! ### The later passes -/

/-- A pass stands at an element, with what is left of its budget. -/
structure FelicaCursor (frame : Memory) (k : Nat) (item : Option Nat) (budget : Nat) : Prop where
  item   : item = some (felicaListPos frame k)
  budget : felicaListPos frame (k + 1) + budget = felicaRequestEnd frame

lemma getFirst_cursor (h : felicaListPos frame 1 ≤ felicaRequestEnd frame) : ∃ item budget,
    (felicaListenerBlockListItemGetFirst frame).value = some (item, budget) ∧
      FelicaCursor frame 0 item budget :=
  ⟨_, _, getFirst_value_of_fits h, rfl, Nat.add_sub_of_le h⟩

lemma getNext_cursor {k budget : Nat}
    (h : FelicaCursor frame k (some (felicaListPos frame k)) budget) : ∃ next budget',
    (felicaListenerBlockListItemGetNext frame (felicaListPos frame k) budget).value =
        some (next, budget') ∧
      (felicaListPos frame (k + 2) ≤ felicaRequestEnd frame →
        FelicaCursor frame (k + 1) next budget') := by
  have hsucc : felicaListPos frame (k + 2) =
    felicaListPos frame (k + 1) + felicaSizeAt frame (felicaListPos frame (k + 1)) := rfl
  have hbudget := h.budget
  by_cases hfits : felicaSizeAt frame (felicaListPos frame (k + 1)) ≤ budget
  · have hbudget' : felicaListPos frame (k + 2) +
        (budget - felicaSizeAt frame (felicaListPos frame (k + 1))) = felicaRequestEnd frame := by
      omega
    exact ⟨_, _, getNext_value_of_fits hfits, fun _ => ⟨rfl, hbudget'⟩⟩
  · obtain ⟨budget', hnone⟩ := getNext_value_of_lt (Nat.lt_of_not_le hfits)
    exact ⟨_, _, hnone, fun hmore => by omega⟩

lemma FelicaCursor.next_inside {k budget : Nat} (hn : felicaRequestEnd frame ≤ n)
    (h : FelicaCursor frame k (some (felicaListPos frame k)) budget) :
    (felicaListenerBlockListItemGetNext frame (felicaListPos frame k) budget).Inside n :=
  getNext_inside (h.budget.trans_le hn)

/-! ### Read -/

lemma validateReadItem_inside {serviceCode i k : Nat} {macA : Option Nat} {mac : Bool}
    (h : felicaListPos frame (k + 1) ≤ n) :
    (felicaValidateReadItem frame s serviceCode i (felicaListPos frame k) macA mac).Inside n := by
  have hlt := listPos_lt_succ frame k
  obtain ⟨valid, hvalid⟩ := itemValidateBlockNumber_value frame (felicaListPos frame k)
  rw [felicaValidateReadItem, inside_readAt_bind]
  refine ⟨by omega, ?_⟩
  rcases itemVerdict_cases (frame (felicaListPos frame k)) i with hverdict | ⟨sf1, sf2, hverdict⟩
  · rw [hverdict]
    simp only [inside_bind_of_value hvalid, inside_bind_of_value (itemNumber_value _ _)]
    refine ⟨itemValidateBlockNumber_inside h, itemNumber_inside.mpr (by omega), ?_⟩
    split_ifs <;> first
      | exact inside_pure _
      | (split <;> exact inside_pure _)
  · rw [hverdict]
    exact inside_pure _

lemma validateReadBlockList_inside {serviceCode rounds i budget : Nat} {item macA : Option Nat}
    {mac : Bool} (hn : felicaRequestEnd frame ≤ n)
    (hcursor : 0 < rounds → FelicaCursor frame i item budget)
    (hlist : felicaListPos frame (i + rounds) ≤ felicaRequestEnd frame) :
    (felicaValidateReadBlockList frame s serviceCode rounds i item budget macA mac).Inside n := by
  induction rounds generalizing i item budget macA mac with
  | zero => exact inside_pure _
  | succ rounds ih =>
    obtain ⟨rfl, hbudget⟩ := hcursor (Nat.succ_pos _)
    have hthis : FelicaCursor frame i (some (felicaListPos frame i)) budget := ⟨rfl, hbudget⟩
    obtain ⟨next, budget', hnext, hcursor'⟩ := getNext_cursor hthis
    have hitem : felicaListPos frame (i + 1) ≤ n := by omega
    rw [felicaValidateReadBlockList, inside_bind_of_value value_check]
    refine ⟨inside_check.mpr rfl, inside_bind.mpr ⟨validateReadItem_inside hitem, ?_⟩⟩
    rintro ⟨verdict, macA', mac'⟩ -
    by_cases hverdict : verdict = .accepted
    · simp only [if_pos hverdict, inside_bind_of_value hnext]
      refine ⟨hthis.next_inside hn, ih (fun hpos => hcursor' ?_) ?_⟩
      · exact (listPos_mono frame (by omega)).trans hlist
      · exact (listPos_mono frame (by omega)).trans hlist
    · simp only [if_neg hverdict, inside_pure]

lemma serviceCode_inside (hn : 14 ≤ n) : (felicaServiceCode frame).Inside n := by
  rw [felicaServiceCode, inside_readAt_bind, inside_readAt_bind]
  exact ⟨by omega, by omega, inside_pure _⟩

lemma serviceCode_value (frame : Memory) : ∃ serviceCode,
    (felicaServiceCode frame).value = some serviceCode := ⟨_, rfl⟩

/-- The number of blocks of a Read or a Write that has passed the check of its bounds. -/
lemma bounds_of_count {blockCount most : BitVec 8} (h : ¬ (blockCount < 1 ∨ most < blockCount)) :
    (1 ≤ blockCount && blockCount ≤ most) = true := by
  simp only [not_or, BitVec.not_lt] at h
  rw [Bool.and_eq_true, decide_eq_true_eq, decide_eq_true_eq]
  exact h

lemma validateReadRequest_inside {blockListSize : Nat} (hn : felicaRequestEnd frame ≤ n)
    (hchecked : FelicaListChecked frame blockListSize) (hcode : frame 1 = 0x06) :
    (felicaListenerValidateReadRequest frame s).Inside n := by
  have hend : felicaRequestEnd frame = 14 + felicaRequestRoom frame := rfl
  rw [felicaListenerValidateReadRequest, inside_readAt_bind]
  refine ⟨by omega, ?_⟩
  split
  · exact inside_pure _
  rw [inside_readAt_bind]
  refine ⟨by omega, ?_⟩
  split
  · exact inside_pure _
  next hcount =>
  obtain ⟨serviceCode, hserviceCode⟩ := serviceCode_value frame
  rw [inside_bind_of_value hserviceCode]
  refine ⟨serviceCode_inside (by omega), ?_⟩
  split
  · exact inside_pure _
  obtain ⟨item, budget, hvalue, hcursor⟩ := getFirst_cursor hchecked.first
  rw [inside_bind_of_value hvalue]
  refine ⟨getFirst_inside hn, validateReadBlockList_inside hn (fun _ => hcursor) ?_⟩
  rw [Nat.zero_add]
  refine hchecked.announced ?_
  rw [felicaListenerTestBlockListSizeBounds, if_pos hcode]
  exact bounds_of_count hcount

lemma readBlocks_inside {blockCount rounds i budget : Nat} {item : Option Nat}
    {r : FelicaReadState} (hn : felicaRequestEnd frame ≤ n)
    (hcursor : 0 < rounds → FelicaCursor frame i item budget)
    (hlist : felicaListPos frame (i + rounds) ≤ felicaRequestEnd frame) :
    (felicaReadBlocks des3 frame blockCount rounds i item budget r).Inside n := by
  induction rounds generalizing i item budget r with
  | zero => exact inside_pure _
  | succ rounds ih =>
    obtain ⟨rfl, hbudget⟩ := hcursor (Nat.succ_pos _)
    have hthis : FelicaCursor frame i (some (felicaListPos frame i)) budget := ⟨rfl, hbudget⟩
    obtain ⟨next, budget', hnext, hcursor'⟩ := getNext_cursor hthis
    have hlt := listPos_lt_succ frame i
    simp only [felicaReadBlocks, inside_bind_of_value value_check,
      inside_bind_of_value (itemNumber_value _ _), inside_bind_of_value hnext]
    refine ⟨inside_check.mpr rfl, itemNumber_inside.mpr (by omega), hthis.next_inside hn,
      ih (fun hpos => hcursor' ?_) ?_⟩
    · exact (listPos_mono frame (by omega)).trans hlist
    · exact (listPos_mono frame (by omega)).trans hlist

lemma idm_inside (hn : 14 ≤ n) :
    (readRange 2 8 (some (felicaRequestIdm frame))).Inside n :=
  (inside_readRange (by omega)).mpr rfl

lemma bounds_of_readAccepted
    (h : (felicaListenerValidateReadRequest frame s).value = some .accepted)
    (hcode : frame 1 = 0x06) :
    felicaListenerTestBlockListSizeBounds (frame 1) (frame 13) = true := by
  simp only [felicaListenerValidateReadRequest, value_bind, value_readAt, Option.bind_some] at h
  split at h
  · cases h
  rw [value_bind, value_readAt, Option.bind_some] at h
  split at h
  · cases h
  next hcount =>
  rw [felicaListenerTestBlockListSizeBounds, if_pos hcode]
  exact bounds_of_count hcount

lemma readHandler_inside {blockListSize : Nat} (hn : felicaRequestEnd frame ≤ n)
    (hchecked : FelicaListChecked frame blockListSize) (hcode : frame 1 = 0x06) :
    (felicaListenerCommandHandlerRead des3 frame s).Inside n := by
  have hend : felicaRequestEnd frame = 14 + felicaRequestRoom frame := rfl
  obtain ⟨item, budget, hvalue, hcursor⟩ := getFirst_cursor hchecked.first
  rw [felicaListenerCommandHandlerRead, inside_bind]
  refine ⟨idm_inside (by omega), fun idm _ => inside_bind.mpr
    ⟨validateReadRequest_inside hn hchecked hcode, fun verdict hverdict => ?_⟩⟩
  cases verdict with
  | crashed => exact inside_pure _
  | refused sf1 sf2 =>
    simp only [inside_bind_of_value hvalue]
    exact ⟨getFirst_inside hn, inside_pure _⟩
  | accepted =>
    rw [inside_readAt_bind, inside_bind_of_value hvalue]
    refine ⟨by omega, getFirst_inside hn, inside_bind.mpr
      ⟨readBlocks_inside hn (fun _ => hcursor) ?_, fun _ _ => inside_pure _⟩⟩
    rw [Nat.zero_add]
    exact hchecked.announced (bounds_of_readAccepted hverdict hcode)

/-! ### Write -/

/-- The data of the blocks that a Write announces lie in the request. -/
structure FelicaDataInside (frame : Memory) (dataPos : Nat) : Prop where
  list : felicaListPos frame (frame 13).toNat ≤ felicaRequestEnd frame
  data : dataPos + 16 * (frame 13).toNat ≤ felicaRequestEnd frame

lemma checkMacA_inside {dataPos : Nat} (h : dataPos + 32 ≤ n) :
    (felicaCheckMacA des3 frame s dataPos).Inside n := by
  simp only [felicaCheckMacA, inside_bind,
    inside_readRange (n := n) (show dataPos + 24 ≤ n by omega),
    inside_readRange (n := n) (show dataPos + 16 + 8 ≤ n by omega),
    inside_readRange (n := n) (show dataPos + 24 + 3 ≤ n by omega)]
  refine ⟨rfl, fun _ _ => ⟨rfl, fun _ _ => ⟨rfl, fun _ _ => ?_⟩⟩⟩
  split
  · exact inside_pure _
  · split <;> exact inside_pure _

lemma validateWriteItem_inside {dataPos i k : Nat} {withMac : Bool}
    (h : felicaListPos frame (k + 1) ≤ n) (hdata : i = 1 → dataPos + 32 ≤ n) :
    (felicaValidateWriteItem des3 frame s dataPos i (felicaListPos frame k) withMac).Inside n := by
  have hlt := listPos_lt_succ frame k
  obtain ⟨valid, hvalid⟩ := itemValidateBlockNumber_value frame (felicaListPos frame k)
  simp only [felicaValidateWriteItem, inside_bind_of_value hvalid,
    inside_bind_of_value (itemNumber_value _ _)]
  refine ⟨itemValidateBlockNumber_inside h, itemNumber_inside.mpr (by omega), ?_⟩
  split
  · exact inside_pure _
  split
  · exact inside_pure _
  rw [inside_readAt_bind]
  refine ⟨by omega, ?_⟩
  rcases itemVerdict_cases (frame (felicaListPos frame k)) i with hverdict | ⟨sf1, sf2, hverdict⟩
  · rw [hverdict]
    simp only
    split
    next hone => exact checkMacA_inside (hdata hone)
    · split <;> exact inside_pure _
  · rw [hverdict]
    exact inside_pure _

lemma validateWriteBlockList_inside {dataPos : Nat} (hn : felicaRequestEnd frame ≤ n)
    (hcount : frame 13 = 1 ∨ frame 13 = 2) (hdata : FelicaDataInside frame dataPos) :
    (felicaValidateWriteBlockList des3 frame s dataPos (frame 13)).Inside n := by
  have hpositive : 1 ≤ (frame 13).toNat := by
    rcases hcount with h | h <;> rw [h] <;> decide
  have hfirst : felicaListPos frame 1 ≤ felicaRequestEnd frame :=
    (listPos_mono frame hpositive).trans hdata.list
  have htwo (h : frame 13 = 2) :
      felicaListPos frame 2 ≤ felicaRequestEnd frame ∧ dataPos + 32 ≤ felicaRequestEnd frame := by
    have htoNat : (frame 13).toNat = 2 := by rw [h]; rfl
    have hlist := hdata.list
    have hblocks := hdata.data
    rw [htoNat] at hlist hblocks
    exact ⟨hlist, hblocks⟩
  obtain ⟨item, budget, hvalue, hcursor⟩ := getFirst_cursor hfirst
  obtain rfl := hcursor.item
  obtain ⟨next, budget', hnext, hcursor'⟩ := getNext_cursor hcursor
  simp only [felicaValidateWriteBlockList, inside_bind_of_value hvalue,
    inside_bind_of_value value_check, inside_bind_of_value hnext]
  refine ⟨getFirst_inside hn, inside_check.mpr rfl, hcursor.next_inside hn,
    inside_bind.mpr ⟨?_, fun withMac _ => inside_bind.mpr
      ⟨validateWriteItem_inside (hfirst.trans hn) (fun h => absurd h Nat.zero_ne_one),
        fun verdict _ => ?_⟩⟩⟩
  · split
    next h =>
      obtain ⟨rfl, -⟩ := hcursor' (htwo h).1
      have hlt : felicaListPos frame 1 + 2 ≤ felicaListPos frame 2 := listPos_lt_succ frame 1
      have hlist := (htwo h).1
      have hnumber : felicaListPos frame 1 + 1 < n := by omega
      rw [inside_bind_of_value value_check, inside_bind_of_value (itemNumber_value _ _)]
      exact ⟨inside_check.mpr rfl, itemNumber_inside.mpr hnumber, inside_pure _⟩
    · exact inside_pure _
  · split
    next h =>
      obtain ⟨hlist, hblocks⟩ := htwo h.2
      obtain ⟨rfl, -⟩ := hcursor' hlist
      rw [inside_bind_of_value value_check]
      exact ⟨inside_check.mpr rfl, validateWriteItem_inside (hlist.trans hn)
        fun _ => hblocks.trans hn⟩
    · exact inside_pure _

/-- A Write that is not refused for its number of blocks announces one or two. -/
lemma count_of_bounds {blockCount : BitVec 8} (h : ¬ (blockCount < 1 ∨ 2 < blockCount)) :
    blockCount = 1 ∨ blockCount = 2 := by
  have hone : (1 : BitVec 8).toNat = 1 := rfl
  have htwo : (2 : BitVec 8).toNat = 2 := rfl
  simp only [BitVec.lt_def, not_or, Nat.not_lt, hone, htwo] at h
  have hcases : blockCount.toNat = 1 ∨ blockCount.toNat = 2 := by omega
  exact hcases.imp BitVec.eq_of_toNat_eq BitVec.eq_of_toNat_eq

lemma FelicaListChecked.dataInside {blockListSize : Nat}
    (h : FelicaListChecked frame blockListSize) (hcode : frame 1 = 0x08)
    (hcount : frame 13 = 1 ∨ frame 13 = 2) : FelicaDataInside frame (14 + blockListSize) := by
  have hbounds : felicaListenerTestBlockListSizeBounds (frame 1) (frame 13) = true := by
    rcases hcount with hcount | hcount <;> rw [hcode, hcount] <;> decide
  have hdata := h.data hcode
  have hle := h.count hcode hbounds
  exact ⟨h.announced hbounds, by omega⟩

lemma validateWriteRequest_inside {blockListSize : Nat} (hn : felicaRequestEnd frame ≤ n)
    (hchecked : FelicaListChecked frame blockListSize) (hcode : frame 1 = 0x08) :
    (felicaListenerValidateWriteRequest des3 frame s (14 + blockListSize)).Inside n := by
  have hend : felicaRequestEnd frame = 14 + felicaRequestRoom frame := rfl
  rw [felicaListenerValidateWriteRequest, inside_readAt_bind]
  refine ⟨by omega, ?_⟩
  split
  · exact inside_pure _
  rw [inside_readAt_bind]
  refine ⟨by omega, ?_⟩
  split
  · exact inside_pure _
  next hbounds =>
  have hcount := count_of_bounds hbounds
  obtain ⟨serviceCode, hserviceCode⟩ := serviceCode_value frame
  rw [inside_bind_of_value hserviceCode]
  refine ⟨serviceCode_inside (by omega), ?_⟩
  split
  · exact inside_pure _
  · exact validateWriteBlockList_inside hn hcount (hchecked.dataInside hcode hcount)

lemma writeBlocks_inside {dataPos rounds i budget : Nat} {item : Option Nat}
    (hn : felicaRequestEnd frame ≤ n)
    (hcursor : 0 < rounds → FelicaCursor frame i item budget)
    (hlist : felicaListPos frame (i + rounds) ≤ felicaRequestEnd frame)
    (hdata : dataPos + 16 * (i + rounds) ≤ felicaRequestEnd frame) :
    (felicaWriteBlocks des3 frame dataPos rounds i item budget s).Inside n := by
  induction rounds generalizing i item budget s with
  | zero => exact inside_pure _
  | succ rounds ih =>
    obtain ⟨rfl, hbudget⟩ := hcursor (Nat.succ_pos _)
    have hthis : FelicaCursor frame i (some (felicaListPos frame i)) budget := ⟨rfl, hbudget⟩
    obtain ⟨next, budget', hnext, hcursor'⟩ := getNext_cursor hthis
    have hlt := listPos_lt_succ frame i
    simp only [felicaWriteBlocks, inside_bind_of_value value_check,
      inside_bind_of_value (itemNumber_value _ _), inside_bind_of_value hnext,
      inside_bind_of_value value_readRange]
    refine ⟨inside_check.mpr rfl, itemNumber_inside.mpr (by omega),
      (inside_readRange (by omega)).mpr rfl, hthis.next_inside hn, ih (fun hpos => hcursor' ?_) ?_
        (by omega)⟩
    · exact (listPos_mono frame (by omega)).trans hlist
    · exact (listPos_mono frame (by omega)).trans hlist

lemma writeHandler_inside {blockListSize : Nat} (hn : felicaRequestEnd frame ≤ n)
    (hchecked : FelicaListChecked frame blockListSize) (hcode : frame 1 = 0x08) :
    (felicaListenerCommandHandlerWrite des3 frame s blockListSize).Inside n := by
  have hend : felicaRequestEnd frame = 14 + felicaRequestRoom frame := rfl
  rw [felicaListenerCommandHandlerWrite, inside_bind]
  refine ⟨idm_inside (by omega), fun idm _ => inside_bind.mpr
    ⟨validateWriteRequest_inside hn hchecked hcode, fun verdict hverdict => ?_⟩⟩
  cases verdict with
  | crashed         => exact inside_pure _
  | refused sf1 sf2 => exact inside_pure _
  | accepted =>
    obtain ⟨-, -, hcount⟩ := validateWriteRequest_value hverdict
    have hinside := hchecked.dataInside hcode hcount
    have hpositive : 1 ≤ (frame 13).toNat := by
      rcases hcount with h | h <;> rw [h] <;> decide
    obtain ⟨item, budget, hvalue, hcursor⟩ :=
      getFirst_cursor ((listPos_mono frame hpositive).trans hinside.list)
    simp only [inside_readAt_bind, inside_bind_of_value hvalue]
    refine ⟨by omega, getFirst_inside hn, inside_bind.mpr
      ⟨writeBlocks_inside hn (fun _ => hcursor) ?_ ?_, fun _ _ => inside_pure _⟩⟩
    · rw [Nat.zero_add]
      exact hinside.list
    · rw [Nat.zero_add]
      exact hinside.data

/-! ### A frame -/

/-- A frame of at least 16 bytes has all the bytes that its length allows a pass to read. -/
lemma requestEnd_lt {size : Nat} (hsize : 16 ≤ size)
    (hlength : (frame 0).toNat = (size - 2) % 256) : felicaRequestEnd frame < size := by
  rw [felicaRequestEnd, felicaRequestRoom]
  omega

lemma processRequest_inside {size : Nat} (hpositive : 0 < size)
    (hsize : (frame 0).toNat = (size - 2) % 256 → 16 ≤ size) :
    (felicaListenerProcessRequest des3 frame size s).Inside size := by
  rw [felicaListenerProcessRequest, inside_readAt_bind]
  refine ⟨hpositive, ?_⟩
  split
  · exact inside_pure _
  next hlength =>
  have hlength := not_not.mp hlength
  have hend := (requestEnd_lt (hsize hlength) hlength).le
  have hlarge := hsize hlength
  obtain ⟨hinside, valid, blockListSize, hvalue, hchecked⟩ := checkBlockListSize_checked hend
  simp only [inside_bind_of_value hvalue]
  refine ⟨hinside, ?_⟩
  split
  · exact inside_pure _
  next hvalid =>
  have hchecked := hchecked (by simpa using hvalid)
  rw [inside_bind_of_value value_readRange]
  refine ⟨idm_inside (by omega), ?_⟩
  split
  · exact inside_pure _
  rw [inside_readAt_bind]
  refine ⟨by omega, ?_⟩
  split
  next hread => exact readHandler_inside hend hchecked hread
  · split
    next hwrite => exact writeHandler_inside hend hchecked hwrite
    · exact inside_pure _

/-- The counting pass of a shorter frame reads a second element behind it. -/
lemma not_processRequest_inside {size : Nat} (hcrc : 2 < size) (hsize : size < 16)
    (hlength : (frame 0).toNat = (size - 2) % 256) :
    ¬ (felicaListenerProcessRequest des3 frame size s).Inside size := by
  intro h
  have hroom : felicaRequestEnd frame = 14 + felicaRequestRoom frame := rfl
  have hpos : felicaListPos frame 1 = 14 + felicaSizeAt frame 14 := rfl
  have hcases := sizeAt_cases frame 14
  rw [felicaRequestRoom] at hroom
  rw [felicaListenerProcessRequest, inside_readAt_bind, if_neg (not_not.mpr hlength),
    felicaListenerCheckBlockListSize, felicaListenerGetBlockListItemCountSize] at h
  have hcount := (inside_bind.mp (inside_bind.mp (inside_bind.mp h.2).1).1).2 _ rfl
  have hvalue := getFirst_value_of_fits
    (show felicaListPos frame 1 ≤ felicaRequestEnd frame by omega)
  rw [inside_bind_of_value hvalue] at hcount
  obtain ⟨rounds, hrounds⟩ : ∃ rounds, (if frame 1 = 0x06 then 4 else 2) = rounds + 1 := by
    split <;> exact ⟨_, rfl⟩
  simp only [hrounds, felicaCountItems] at hcount
  have hitem := (inside_bind.mp ((inside_bind_of_value (value_itemSize _ _)).mp hcount.2).2).1
  rw [felicaListenerBlockListItemGetNext, inside_bind_of_value (value_itemSize _ _),
    felicaListenerBlockListIterate] at hitem
  generalize hbudget : (if (frame 1 == 0x08) = true then
    felicaRequestEnd frame - felicaListPos frame 1 - 16 else
    felicaRequestEnd frame - felicaListPos frame 1) = budget at hitem
  have hle : 2 ≤ budget := by
    split at hbudget <;> omega
  rw [if_pos hle] at hitem
  have hread := itemSize_inside.mp (inside_bind.mp hitem.2).1
  omega

/-! ### What is stored -/

/-- The number of the block that an element of the list announces. -/
def felicaListNumber (frame : Memory) (i : Nat) : Nat := (frame (felicaListPos frame i + 1)).toNat

/-- The 16 bytes that follow the announced elements, by their number. -/
def felicaListData (frame : Memory) (i : Nat) : FelicaBlockData :=
  felicaWriteData frame (felicaListPos frame (frame 13).toNat) i

namespace FelicaListener

/-- What a block is to hold when data are written to it: REG only counts down, MC goes by its permissions,
and the first half of ID is fixed. -/
def written (s : FelicaListener) (number : Nat) (value : FelicaBlockData) : FelicaBlockData :=
  if number = felicaBlockIndexReg then felicaWriteReg s.data.reg value
  else if number = felicaBlockIndexMc then fun i =>
    felicaWriteMcByte (felicaGetMcBit s.data 0 15) s.data.systemBlockRwAccess i (s.mcShadow i)
      (value i)
  else if number = felicaBlockIndexId then fun i =>
    if 8 ≤ i then value i else s.data.numbered felicaBlockIndexId i
  else value

/-- What a listener holds of a block: that of MC waits in the shadow. -/
def held (s : FelicaListener) (number : Nat) : FelicaBlockData :=
  if number = felicaBlockIndexMc then s.mcShadow else s.data.numbered number

lemma held_congr {s s' : FelicaListener} {number : Nat} (hshadow : s'.mcShadow = s.mcShadow)
    (hnumbered : s'.data.numbered number = s.data.numbered number) :
    s'.held number = s.held number := by
  rw [held, held, hshadow, hnumbered]

end FelicaListener

lemma writeBlock_held (number : Nat) (value : FelicaBlockData) (s : FelicaListener) :
    (felicaWriteBlock des3 number value s).held number = s.written number value := by
  by_cases hmc : number = felicaBlockIndexMc
  · subst hmc
    rfl
  · rw [FelicaListener.held, if_neg hmc, felicaWriteBlock, FelicaListener.written, if_neg hmc]
    split_ifs with hrc hreg hid hreg hstate hid hid
    · exact absurd (hrc.symm.trans hreg) (by decide)
    · exact absurd (hrc.symm.trans hid) (by decide)
    · subst hrc
      exact numbered_setNumbered_self _ _ _
    · subst hreg
      exact numbered_setNumbered_self _ _ _
    · exact absurd (hstate.symm.trans hid) (by decide)
    · subst hstate
      exact numbered_setNumbered_self _ _ _
    · subst hid
      exact numbered_setNumbered_self _ _ _
    · exact numbered_setNumbered_self _ _ _

namespace FelicaWrite

variable {w : FelicaWrite} {s' : FelicaListener}

lemma Accepted.held_apply (h : w.Accepted des3 s) :
    (w.apply des3 s).held w.number = s.written w.number w.value := by
  rw [apply]
  cases w.mac with
  | none     => exact writeBlock_held _ _ _
  | some mac =>
    have hheld : (felicaWriteBlock des3 w.number w.value s).held w.number =
        s.written w.number w.value := writeBlock_held _ _ _
    rw [← hheld]
    exact FelicaListener.held_congr (writeBlock_mcShadow (by decide) _ _)
      (writeBlock_numbered h.writable.exist (by decide) h.notMacA _ _)

/-- Behind a Write that has been done only the write counter is changed further. -/
lemma Done.eq_apply (h : w.Done des3 s (some s')) : s'.mcShadow = (w.apply des3 s).mcShadow ∧
    ∀ a, felicaBlockExists a = true → a ≠ felicaBlockIndexWcnt →
      s'.data.numbered a = (w.apply des3 s).data.numbered a := by
  obtain ⟨-, sent, hresult⟩ := h
  obtain ⟨data, hincrement, rfl⟩ := Option.map_eq_some_iff.mp hresult.symm
  obtain ⟨-, -, -, -, hothers⟩ := wcntIncrement_eq hincrement
  exact ⟨rfl, hothers⟩

lemma Done.held_number (h : w.Done des3 s (some s')) :
    s'.held w.number = s.written w.number w.value := by
  obtain ⟨hshadow, hothers⟩ := h.eq_apply
  rw [← h.accepted.held_apply]
  exact FelicaListener.held_congr hshadow
    (hothers _ h.accepted.writable.exist h.accepted.ne_wcnt.symm)

lemma Done.held_macA {mac : FelicaBlockData} (h : w.Done des3 s (some s'))
    (hmac : w.mac = some mac) : s'.held felicaBlockIndexMacA = mac := by
  obtain ⟨-, hothers⟩ := h.eq_apply
  have hblock := hothers felicaBlockIndexMacA (by decide) (by decide)
  rw [apply, hmac] at hblock
  exact hblock.trans (numbered_setNumbered_self _ _ _)

end FelicaWrite

lemma FelicaWriteItems.listNumber (h : FelicaWriteItems frame (frame 13)) (htwo : frame 13 = 2) :
    felicaListNumber frame 1 = felicaBlockIndexMacA := by
  obtain ⟨budget, next, budget', -, hnext, hsecond⟩ := h.items
  obtain ⟨second, rfl, hmacA⟩ := hsecond htwo
  rw [felicaListenerBlockListItemGetNext, value_bind, value_itemSize, Option.bind_some] at hnext
  obtain ⟨next', budget'', hvalue, hpos⟩ := iterate_value frame budget 14 (felicaSizeAt frame 14)
  have hsame := (Prod.mk.inj (Option.some.inj (hnext.symm.trans hvalue))).1
  have hsecond : second = felicaListPos frame 1 := hpos second hsame.symm
  rw [felicaListNumber, ← hsecond, hmacA]

/-- A frame is parsed as it should be: what is read lies in the frame, no element is missing, and
behind a Write that is accepted the listener holds, in the blocks that the list announces, the data
that follow the announced elements. -/
structure FelicaParses (des3 : Des3) (s : FelicaListener) (frame : Memory) (size : Nat) :
    Prop where
  inside : (felicaListenerRun des3 s (.received frame size)).Inside size
  stored : ∀ blockListSize s', FelicaAccepts des3 s frame size blockListSize →
    (felicaListenerRun des3 s (.received frame size)).value = some (some s') →
      ∀ i < (frame 13).toNat, (s'.held (felicaListNumber frame i)).bytes 16 =
        (s.written (felicaListNumber frame i) (felicaListData frame i)).bytes 16
  others : ∀ blockListSize s', FelicaAccepts des3 s frame size blockListSize →
    (felicaListenerRun des3 s (.received frame size)).value = some (some s') →
      ∀ a, felicaBlockExists a = true → a ≠ felicaBlockIndexWcnt →
        (∀ i < (frame 13).toNat, a ≠ felicaListNumber frame i) →
          s'.data.numbered a = s.data.numbered a

/-- The data of an accepted Write lie behind as many elements as have been counted, for which there
are data. -/
lemma FelicaAccepts.counted {size blockListSize : Nat}
    (h : FelicaAccepts des3 s frame size blockListSize) :
    FelicaListChecked frame blockListSize := by
  obtain ⟨-, valid, blockListSize', hvalue, hchecked⟩ :=
    checkBlockListSize_checked (Nat.le_refl (felicaRequestEnd frame))
  have hsame := Option.some.inj (h.list.symm.trans hvalue)
  rw [Prod.mk.injEq] at hsame
  rw [hsame.2]
  exact hchecked hsame.1.symm

lemma FelicaAccepts.count {size blockListSize : Nat}
    (h : FelicaAccepts des3 s frame size blockListSize) : frame 13 = 1 ∨ frame 13 = 2 :=
  (validateWriteRequest_value h.verdict).2.2

/-- The data of a Write of one block start behind a second element that has been counted exactly
when the frame has room for it and for its data. -/
lemma accepts_pos {size blockListSize : Nat}
    (h : FelicaAccepts des3 s frame size blockListSize) : 14 + blockListSize =
      felicaListPos frame (if frame 13 = 1 ∧ felicaRequestEnd frame < felicaListPos frame 2 + 32
        then 1 else 2) := by
  have hlistSize := h.counted.listSize h.code
  have hdata := h.counted.data h.code
  have hlt := listPos_lt_succ frame 1
  rcases h.count with hone | htwo
  · rw [hlistSize, felicaWriteCount]
    rw [hlistSize] at hdata
    by_cases hfits : felicaListPos frame 2 + 16 ≤ felicaRequestEnd frame
    · rw [felicaWriteCount, if_pos hfits] at hdata
      rw [if_pos hfits, if_neg fun hin => Nat.not_lt.mpr hdata hin.2]
    · rw [if_neg hfits, if_pos ⟨hone, by omega⟩]
  · have hbounds : felicaListenerTestBlockListSizeBounds (frame 1) (frame 13) = true := by
      rw [h.code, htwo]
      decide
    have hle := h.counted.count h.code hbounds
    have hnumber : (frame 13).toNat = 2 := by rw [htwo]; rfl
    have hcount : felicaWriteCount frame = 2 := by
      rw [felicaWriteCount] at hle ⊢
      split
      · rfl
      next hsmall =>
        rw [if_neg hsmall, hnumber] at hle
        omega
    rw [hlistSize, hcount, if_neg fun hin => by rw [htwo] at hin; exact absurd hin.1 (by decide)]

lemma toNat_of_count (h : frame 13 = 1 ∨ frame 13 = 2) :
    (frame 13 = 1 ∧ (frame 13).toNat = 1) ∨ (frame 13 = 2 ∧ (frame 13).toNat = 2) := by
  rcases h with hone | htwo
  · exact .inl ⟨hone, by rw [hone]; rfl⟩
  · exact .inr ⟨htwo, by rw [htwo]; rfl⟩

lemma FelicaAccepts.done {size blockListSize : Nat}
    (h : FelicaAccepts des3 s frame size blockListSize) : ∃ r,
    (felicaListenerRun des3 s (.received frame size)).value = some r ∧
      (felicaWriteOf frame blockListSize).Done des3 s r := by
  rw [run_of_accepts h]
  exact writeHandler_accepted h.verdict

lemma FelicaAccepts.done_of_value {size blockListSize : Nat} {s' : FelicaListener}
    (h : FelicaAccepts des3 s frame size blockListSize)
    (hvalue : (felicaListenerRun des3 s (.received frame size)).value = some (some s')) :
    (felicaWriteOf frame blockListSize).Done des3 s (some s') := by
  obtain ⟨r, hr, hdone⟩ := h.done
  rwa [Option.some.inj (hvalue.symm.trans hr)]

/-- The listener does not crash behind a Write when there is a maximum for the counter. -/
lemma FelicaAccepts.value_of_max {size blockListSize : Nat}
    (h : FelicaAccepts des3 s frame size blockListSize)
    (hmax : felicaWcntGetMaxValue s.data ≠ none) : ∃ s',
    (felicaListenerRun des3 s (.received frame size)).value = some (some s') := by
  obtain ⟨r, hr, hdone⟩ := h.done
  cases r with
  | none    => exact absurd hdone.ne_none hmax
  | some s' => exact ⟨s', hr⟩

lemma FelicaAccepts.others {size blockListSize a : Nat} {s' : FelicaListener}
    (h : FelicaAccepts des3 s frame size blockListSize)
    (hvalue : (felicaListenerRun des3 s (.received frame size)).value = some (some s'))
    (ha : felicaBlockExists a = true) (hwcnt : a ≠ felicaBlockIndexWcnt)
    (hlist : ∀ i < (frame 13).toNat, a ≠ felicaListNumber frame i) :
    s'.data.numbered a = s.data.numbered a := by
  have hdone := h.done_of_value hvalue
  obtain ⟨-, hothers⟩ := hdone.eq_apply
  have hexists := hdone.accepted.writable.exist
  rw [hothers a ha hwcnt]
  rcases toNat_of_count h.count with ⟨hone, hnumber⟩ | ⟨htwo, hnumber⟩
  · have hmac : (felicaWriteOf frame blockListSize).mac = none :=
      if_neg fun htwo => absurd (hone.symm.trans htwo) (by decide)
    rw [FelicaWrite.apply, hmac]
    exact writeBlock_numbered ha hexists (hlist 0 (by omega)) _ _
  · obtain ⟨-, hitems, -⟩ := validateWriteRequest_value h.verdict
    have hmacA := hlist 1 (by omega)
    rw [hitems.listNumber htwo] at hmacA
    exact FelicaWrite.numbered_apply ha hexists (hlist 0 (by omega)) hmacA

lemma FelicaAccepts.stored_two {size blockListSize i : Nat} {s' : FelicaListener}
    (h : FelicaAccepts des3 s frame size blockListSize) (htwo : frame 13 = 2) (hi : i < 2)
    (hvalue : (felicaListenerRun des3 s (.received frame size)).value = some (some s')) :
    s'.held (felicaListNumber frame i) =
      s.written (felicaListNumber frame i) (felicaListData frame i) := by
  have hdone := h.done_of_value hvalue
  have hnumber : (frame 13).toNat = 2 := by rw [htwo]; rfl
  have hpos := accepts_pos h
  rw [if_neg fun hin => absurd (htwo.symm.trans hin.1) (by decide)] at hpos
  have hdata : felicaListData frame i = felicaWriteData frame (14 + blockListSize) i := by
    rw [felicaListData, hnumber, hpos]
  rw [hdata]
  rcases Nat.lt_succ_iff.mp hi |>.lt_or_eq with hzero | rfl
  · obtain rfl : i = 0 := by omega
    exact hdone.held_number
  · obtain ⟨-, hitems, -⟩ := validateWriteRequest_value h.verdict
    rw [hitems.listNumber htwo]
    exact hdone.held_macA (if_pos htwo)

/-- The data of an accepted Write of one block are stored as they should be exactly when those behind
a second element are not taken, or leave the same in the block. -/
lemma FelicaAccepts.stored_one_iff {size blockListSize : Nat} {s' : FelicaListener}
    (h : FelicaAccepts des3 s frame size blockListSize) (hone : frame 13 = 1)
    (hvalue : (felicaListenerRun des3 s (.received frame size)).value = some (some s')) :
    (s'.held (felicaListNumber frame 0)).bytes 16 =
        (s.written (felicaListNumber frame 0) (felicaListData frame 0)).bytes 16 ↔
      felicaRequestEnd frame < felicaListPos frame 2 + 32 ∨
        (s.written (felicaListNumber frame 0)
            (felicaWriteData frame (felicaListPos frame 2) 0)).bytes 16 =
          (s.written (felicaListNumber frame 0)
            (felicaWriteData frame (felicaListPos frame 1) 0)).bytes 16 := by
  have hheld := (h.done_of_value hvalue).held_number
  have hnumber : (frame 13).toNat = 1 := by rw [hone]; rfl
  have hpos := accepts_pos h
  have hstored : s'.held (felicaListNumber frame 0) =
      s.written (felicaListNumber frame 0) (felicaWriteData frame (14 + blockListSize) 0) := hheld
  rw [hstored, felicaListData, hnumber, hpos]
  rcases Nat.lt_or_ge (felicaRequestEnd frame) (felicaListPos frame 2 + 32) with hlt | hge
  · rw [if_pos ⟨hone, hlt⟩]
    exact iff_of_true rfl (.inl hlt)
  · rw [if_neg fun hin => Nat.not_lt.mpr hge hin.2]
    exact (or_iff_right (Nat.not_lt.mpr hge)).symm

lemma received_inside_iff {size : Nat} (hcrc : felicaCrcCheck frame size = true) :
    (felicaListenerRun des3 s (.received frame size)).Inside size ↔
      ((frame 0).toNat = (size - 2) % 256 → 16 ≤ size) := by
  have hsize : 2 < size := by
    rw [felicaCrcCheck, Bool.and_eq_true, decide_eq_true_eq] at hcrc
    exact hcrc.1
  have hrun : (felicaListenerRun des3 s (.received frame size)).Inside size ↔
      (felicaListenerProcessRequest des3 frame size s).Inside size := by
    rw [felicaListenerRun, hcrc, inside_bind_of_value value_readRange, if_pos rfl,
      inside_readRange (by omega)]
    exact and_iff_right rfl
  rw [hrun]
  constructor
  · intro hinside hlength
    by_contra hshort
    exact not_processRequest_inside hsize (Nat.lt_of_not_le hshort) hlength hinside
  · exact processRequest_inside (by omega)

/-- A frame with a valid checksum is parsed as it should be exactly when it is not shorter than a
header and a checksum, and a Write of one block that is carried out has no room for a second element
and two blocks of data, or leaves the same in the block with the data behind that element. -/
theorem felica_parses_iff (des3 : Des3) (s : FelicaListener) {frame : Memory} {size : Nat}
    (hcrc : felicaCrcCheck frame size = true) :
    FelicaParses des3 s frame size ↔
      ((frame 0).toNat = (size - 2) % 256 → 16 ≤ size) ∧
      ∀ blockListSize, FelicaAccepts des3 s frame size blockListSize → frame 13 = 1 →
        felicaWcntGetMaxValue s.data ≠ none →
        felicaRequestEnd frame < felicaListPos frame 2 + 32 ∨
          (s.written (felicaListNumber frame 0)
              (felicaWriteData frame (felicaListPos frame 2) 0)).bytes 16 =
            (s.written (felicaListNumber frame 0)
              (felicaWriteData frame (felicaListPos frame 1) 0)).bytes 16 := by
  constructor
  · rintro ⟨hinside, hstored, -⟩
    refine ⟨(received_inside_iff hcrc).mp hinside, fun blockListSize haccepts hone hmax => ?_⟩
    obtain ⟨s', hvalue⟩ := haccepts.value_of_max hmax
    have hnumber : (frame 13).toNat = 1 := by rw [hone]; rfl
    exact (haccepts.stored_one_iff hone hvalue).mp
      (hstored blockListSize s' haccepts hvalue 0 (by omega))
  · rintro ⟨hlarge, hroom⟩
    refine ⟨(received_inside_iff hcrc).mpr hlarge, fun blockListSize s' haccepts hvalue i hi => ?_,
      fun _ _ haccepts hvalue _ => haccepts.others hvalue⟩
    rcases toNat_of_count haccepts.count with ⟨hone, hnumber⟩ | ⟨htwo, hnumber⟩
    · obtain rfl : i = 0 := by omega
      obtain ⟨wcntMax, hmax⟩ := (haccepts.done_of_value hvalue).keeps.2.2
      exact (haccepts.stored_one_iff hone hvalue).mpr
        (hroom blockListSize haccepts hone (by rw [hmax.1]; exact Option.some_ne_none _))
    · rw [haccepts.stored_two htwo (by omega) hvalue]

def felicaBytes (bytes : List (BitVec 8)) : Memory := fun i => bytes.getD i 0

/-- A Write of the first user block that is as long as announced. -/
def felicaWriteBytes : List (BitVec 8) :=
  [32, 0x08] ++ List.replicate 8 0 ++ [1, 0x09, 0, 1, 0x80, 0x00] ++ List.replicate 16 1 ++
    [243, 104]

/-- That Write is parsed as it should be. -/
theorem felica_parses_write : FelicaParses idleDes3 (felicaListenerAlloc felicaBlank)
    (felicaBytes felicaWriteBytes) 34 :=
  (felica_parses_iff idleDes3 _ (by decide +kernel)).mpr
    ⟨fun _ => by decide, fun _ _ _ _ => .inl (by decide)⟩

/-- A frame without a header. -/
def felicaShortBytes : List (BitVec 8) := [1, 16, 33]

/-- A Write of one block with 17 bytes behind its data. -/
def felicaLongBytes : List (BitVec 8) :=
  [51, 0x08] ++ List.replicate 8 0 ++ [1, 0x09, 0, 1, 0x80, 0x00, 0x80, 0x01] ++
    List.replicate 33 7 ++ [134, 99]

lemma felicaLong_accepts : FelicaAccepts idleDes3 (felicaListenerAlloc felicaBlank)
    (felicaBytes felicaLongBytes) 53 4 where
  crc     := by decide +kernel
  length  := by decide
  list    := by decide +kernel
  idm     := by decide +kernel
  code    := by decide
  verdict := by decide +kernel

/-- The short frame is read behind its end, and the long one stores the wrong data. -/
theorem felica_not_parses :
    (felicaCrcCheck (felicaBytes felicaShortBytes) 3 = true ∧
      ¬ FelicaParses idleDes3 (felicaListenerAlloc felicaBlank) (felicaBytes felicaShortBytes) 3) ∧
    felicaCrcCheck (felicaBytes felicaLongBytes) 53 = true ∧
      ¬ FelicaParses idleDes3 (felicaListenerAlloc felicaBlank)
        (felicaBytes felicaLongBytes) 53 := by
  refine ⟨⟨by decide +kernel, fun hparses => ?_⟩, felicaLong_accepts.crc, fun hparses => ?_⟩
  · have hinside := hparses.inside
    revert hinside
    decide +kernel
  · obtain ⟨s', hvalue⟩ := felicaLong_accepts.value_of_max (by decide)
    have hroom := (felicaLong_accepts.stored_one_iff (by decide) hvalue).mp
      (hparses.stored 4 s' felicaLong_accepts hvalue 0 (by decide))
    revert hroom
    decide +kernel

end FlipperZero
