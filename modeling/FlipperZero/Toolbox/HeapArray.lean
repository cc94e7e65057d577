import Mathlib.Data.List.Basic
import Mathlib.Tactic.Common

/-!
# Comparing arrays on the heap

`simple_array_is_equal` compares the storage of two arrays byte by byte, but only as many bytes as
there are elements, whatever their size is.

An element lies in memory as `bytes` says; an element that owns further arrays lies there with their
addresses. What it stands for is a view of it in which no address is left.
-/

namespace FlipperZero

/-- An address on the heap. -/
abbrev Address := BitVec 32

/-! ### Arrays -/

/-- The part of `SimpleArrayConfig` that the comparison uses, and how an element lies in memory. -/
structure SimpleArrayConfig (α : Type) where
  typeSize : Nat
  typeSize_pos : 0 < typeSize
  bytes : α → List (BitVec 8)
  length_bytes : ∀ x, (bytes x).length = typeSize

/-- A `SimpleArray` on the heap. There is storage exactly when there are elements: initialising
asks for one at least, and resetting frees the storage and sets the count to zero. -/
structure HeapArray (α : Type) where
  address : Address
  storage : Option (Address × α × List α)

namespace HeapArray

variable {α β : Type} (a b : HeapArray α)

/-- `data`, which is `NULL` without storage. -/
def data : Option Address := a.storage.map (·.1)

def elements : List α :=
  match a.storage with
  | none            => []
  | some (_, x, xs) => x :: xs

/-- `simple_array_get_count`. -/
def count : Nat := a.elements.length

def storageBytes (config : SimpleArrayConfig α) : List (BitVec 8) :=
  (a.elements.map config.bytes).flatten

/-- Two arrays of one heap: what is at the same address is the same. -/
structure SameHeap : Prop where
  instances : a.address = b.address → a = b
  storages : a.data.isSome → a.data = b.data → a.elements = b.elements

/-- The counts are equal, and as many of the first bytes. -/
def Agree (config : SimpleArrayConfig α) : Prop :=
  a.count = b.count ∧ (a.storageBytes config).take a.count = (b.storageBytes config).take b.count

/-- How many elements the first `count` bytes hold as a whole. -/
def wholeElements (config : SimpleArrayConfig α) : Nat := a.count / config.typeSize

/-- How many bytes of the element behind these are among the first `count` bytes. -/
def partialBytes (config : SimpleArrayConfig α) : Nat := a.count % config.typeSize

/-- The arrays have the same count and the same front: the elements that lie as a whole in as many
bytes as there are elements, and the first bytes of the element behind them. -/
structure SameFront (config : SimpleArrayConfig α) : Prop where
  count : a.count = b.count
  whole : (a.elements.take (a.wholeElements config)).map config.bytes =
    (b.elements.take (b.wholeElements config)).map config.bytes
  next : (a.elements[a.wholeElements config]?.map fun x =>
      (config.bytes x).take (a.partialBytes config)) =
    b.elements[b.wholeElements config]?.map fun x => (config.bytes x).take (b.partialBytes config)

/-- Equal arrays have the same front, which addresses in it may prevent, and in different arrays a
difference is in front. -/
def DiffersInFront (config : SimpleArrayConfig α) (view : α → β) : Prop :=
  (a.elements.map view = b.elements.map view → a.SameFront b config) ∧
    (a.elements.map view ≠ b.elements.map view → ¬ a.SameFront b config)

end HeapArray

/-- `simple_array_is_equal`, for arrays of one configuration. -/
def simpleArrayIsEqual {α : Type} (config : SimpleArrayConfig α) (a b : HeapArray α) : Bool :=
  if a.address = b.address then true
  else
    a.count == b.count &&
      (a.data == b.data || a.data.isNone || b.data.isNone ||
        -- `memcmp` gets the count of the elements
        (a.storageBytes config).take b.count == (b.storageBytes config).take b.count)

/-- `simple_array_config_uint8_t`. -/
def simpleArrayConfigUint8 : SimpleArrayConfig (BitVec 8) where
  typeSize := 1
  typeSize_pos := Nat.one_pos
  bytes x := [x]
  length_bytes _ := rfl

/-! ### Copying -/

section Copy

/- The allocator says which address `malloc` returns next; nothing else is known of it. -/
variable {σ α : Type} (malloc : StateM σ Address)

def simpleArrayAlloc : StateM σ (HeapArray α) := do
  let address ← malloc
  pure { address, storage := none }

/-- `simple_array_copy`, with the allocation and the copy of what one element owns. -/
def simpleArrayCopy (copyElement : α → StateM σ α) (array other : HeapArray α) :
    StateM σ (HeapArray α) :=
  match other.storage with
  | none            => pure { array with storage := none }
  | some (_, x, xs) => do
    let data ← malloc
    let x ← copyElement x
    let xs ← xs.mapM copyElement
    pure { array with storage := some (data, x, xs) }

end Copy

/-! ### What the comparison finds -/

section Compare

variable {α β : Type} {config : SimpleArrayConfig α} {a b : HeapArray α}

namespace HeapArray

lemma elements_of_isNone (h : a.data.isNone = true) : a.elements = [] := by
  cases hstorage : a.storage with
  | none   => rw [elements, hstorage]
  | some s =>
    rw [data, hstorage] at h
    exact absurd h (by simp)

lemma agree_of_nil (hcount : a.count = b.count) (h : a.elements = []) : a.Agree b config := by
  have hzero : a.count = 0 := by
    rw [count, h]
    rfl
  refine ⟨hcount, ?_⟩
  rw [← hcount, hzero, List.take_zero, List.take_zero]

lemma Agree.of_elements (h : a.elements = b.elements) : a.Agree b config := by
  simp only [Agree, count, storageBytes, h, and_self]

end HeapArray

/-- The comparison looks at the counts and as many of the first bytes. -/
theorem simpleArrayIsEqual_iff (h : a.SameHeap b) :
    simpleArrayIsEqual config a b = true ↔ a.Agree b config := by
  unfold simpleArrayIsEqual
  split
  · rename_i haddress
    rw [h.instances haddress]
    exact iff_of_true rfl ⟨rfl, rfl⟩
  · rw [Bool.and_eq_true, beq_iff_eq]
    constructor
    · rintro ⟨hcount, hbytes⟩
      simp only [Bool.or_eq_true, beq_iff_eq, or_assoc] at hbytes
      rcases hbytes with hdata | hnone | hnone | hbytes
      · by_cases hsome : a.data.isSome
        · exact .of_elements (h.storages hsome hdata)
        · exact HeapArray.agree_of_nil hcount (HeapArray.elements_of_isNone (by simpa using hsome))
      · exact HeapArray.agree_of_nil hcount (HeapArray.elements_of_isNone hnone)
      · have hzero : a.count = 0 := by
          rw [hcount, HeapArray.count, HeapArray.elements_of_isNone hnone]
          rfl
        exact HeapArray.agree_of_nil hcount (List.eq_nil_of_length_eq_zero hzero)
      · exact ⟨hcount, by rw [hcount]; exact hbytes⟩
    · rintro ⟨hcount, hbytes⟩
      refine ⟨hcount, ?_⟩
      rw [hcount] at hbytes
      simp [hbytes]

/-- Two rows of blocks of one size begin with the same bytes: the first blocks are the same, and so
is the beginning of the next one. -/
lemma take_flatten_eq_iff {γ : Type} {s : Nat} (hs : 0 < s) {xs ys : List (List γ)}
    (hlen : xs.length = ys.length) (hx : ∀ x ∈ xs, x.length = s) (hy : ∀ y ∈ ys, y.length = s)
    (n : Nat) :
    xs.flatten.take n = ys.flatten.take n ↔ xs.take (n / s) = ys.take (n / s) ∧
      xs[n / s]?.map (List.take (n % s)) = ys[n / s]?.map (List.take (n % s)) := by
  induction xs generalizing ys n with
  | nil =>
    obtain rfl := List.eq_nil_of_length_eq_zero hlen.symm
    exact iff_of_true rfl ⟨rfl, rfl⟩
  | cons x xs ih =>
    cases ys with
    | nil => exact absurd hlen (Nat.succ_ne_zero _)
    | cons y ys =>
      have hxs := hx x List.mem_cons_self
      have hys := hy y List.mem_cons_self
      rw [List.flatten_cons, List.flatten_cons]
      rcases Nat.lt_or_ge n s with hn | hn
      · -- the bytes end in the first blocks
        rw [List.take_append_of_le_length (by omega), List.take_append_of_le_length (by omega),
          Nat.div_eq_of_lt hn, Nat.mod_eq_of_lt hn]
        simp
      · obtain ⟨m, rfl⟩ := Nat.exists_eq_add_of_le hn
        have htake (zs : List (List γ)) {z : List γ} (hz : z.length = s) :
            (z ++ zs.flatten).take (s + m) = z ++ zs.flatten.take m := by
          rw [← hz, List.take_length_add_append]
        have hrest := ih (Nat.succ.inj hlen) (fun z hz => hx z (List.mem_cons_of_mem x hz))
          (fun z hz => hy z (List.mem_cons_of_mem y hz)) m
        have hsplit : x ++ xs.flatten.take m = y ++ ys.flatten.take m ↔
            x = y ∧ xs.flatten.take m = ys.flatten.take m :=
          ⟨fun h => List.append_inj h (hxs.trans hys.symm), fun ⟨h, h'⟩ => by rw [h, h']⟩
        rw [htake xs hxs, htake ys hys, hsplit, hrest, Nat.add_div_left m hs, Nat.add_mod_left]
        simp [and_assoc]

lemma HeapArray.agree_iff : a.Agree b config ↔ a.SameFront b config := by
  have hblocks (c : HeapArray α) : ∀ x ∈ c.elements.map config.bytes, x.length = config.typeSize := by
    intro x hx
    obtain ⟨y, -, rfl⟩ := List.mem_map.mp hx
    exact config.length_bytes y
  have hfront (hcount : a.count = b.count) := take_flatten_eq_iff config.typeSize_pos
    (by simpa only [List.length_map, HeapArray.count] using hcount) (hblocks a) (hblocks b) b.count
  constructor
  · rintro ⟨hcount, hbytes⟩
    rw [hcount] at hbytes
    obtain ⟨hwhole, hnext⟩ := (hfront hcount).mp hbytes
    refine ⟨hcount, ?_, ?_⟩
    · rw [wholeElements, hcount, List.map_take, List.map_take]
      exact hwhole
    · rw [List.getElem?_map, List.getElem?_map, Option.map_map, Option.map_map] at hnext
      rw [wholeElements, partialBytes, hcount]
      exact hnext
  · rintro ⟨hcount, hwhole, hnext⟩
    rw [wholeElements, hcount, List.map_take, List.map_take] at hwhole
    rw [wholeElements, partialBytes, hcount] at hnext
    refine ⟨hcount, ?_⟩
    rw [hcount]
    refine (hfront hcount).mpr ⟨hwhole, ?_⟩
    rw [List.getElem?_map, List.getElem?_map, Option.map_map, Option.map_map]
    exact hnext

/-- The comparison is right exactly when a difference is in front, and nothing else is. -/
theorem simpleArrayIsEqual_exact (h : a.SameHeap b) (view : α → β) :
    (simpleArrayIsEqual config a b = true ↔ a.elements.map view = b.elements.map view) ↔
      a.DiffersInFront b config view := by
  rw [simpleArrayIsEqual_iff h, HeapArray.agree_iff, HeapArray.DiffersInFront]
  constructor
  · exact fun h => ⟨h.mpr, fun hne hfront => hne (h.mp hfront)⟩
  · exact fun h => ⟨fun hfront => not_not.mp fun hne => h.2 hne hfront, h.1⟩

/-- Elements of one byte are compared as a whole. -/
theorem simpleArrayIsEqual_oneByte (h : a.SameHeap b) (hsize : config.typeSize = 1)
    (hbytes : Function.Injective config.bytes) :
    simpleArrayIsEqual config a b = true ↔ a.elements = b.elements := by
  rw [simpleArrayIsEqual_iff h]
  refine ⟨fun hagree => ?_, .of_elements⟩
  have hwhole := (HeapArray.agree_iff.mp hagree).whole
  rw [HeapArray.wholeElements, HeapArray.wholeElements, hsize, Nat.div_one, Nat.div_one,
    HeapArray.count, HeapArray.count, List.take_length, List.take_length] at hwhole
  exact List.map_injective_iff.mpr hbytes hwhole

lemma simpleArrayIsEqual_uint8 {a b : HeapArray (BitVec 8)} (h : a.SameHeap b) :
    simpleArrayIsEqual simpleArrayConfigUint8 a b = true ↔ a.elements = b.elements :=
  simpleArrayIsEqual_oneByte h rfl fun _ _ heq => List.singleton_inj.mp heq

end Compare

/-! ### What a copy holds -/

section Copied

variable {σ α β : Type} {malloc : StateM σ Address} {copyElement : α → StateM σ α} {view : α → β}

lemma mapM_view (hview : ∀ x t, view (copyElement x t).1 = view x) (xs : List α) (t : σ) :
    (xs.mapM copyElement t).1.map view = xs.map view := by
  induction xs generalizing t with
  | nil => rfl
  | cons x xs ih =>
    rw [List.mapM_cons]
    exact congrArg₂ List.cons (hview x t) (ih _)

lemma simpleArrayCopy_view (hview : ∀ x t, view (copyElement x t).1 = view x)
    (array other : HeapArray α) (t : σ) :
    (simpleArrayCopy malloc copyElement array other t).1.elements.map view =
      other.elements.map view := by
  unfold simpleArrayCopy HeapArray.elements
  cases other.storage with
  | none   => rfl
  | some s => exact congrArg₂ List.cons (hview _ _) (mapM_view hview _ _)

lemma simpleArrayCopy_pure (array other : HeapArray α) (t : σ) :
    (simpleArrayCopy malloc pure array other t).1.elements = other.elements := by
  have hview : (simpleArrayCopy malloc pure array other t).1.elements.map id =
      other.elements.map id := simpleArrayCopy_view (fun _ _ => rfl) array other t
  rwa [List.map_id, List.map_id] at hview

end Copied

end FlipperZero
