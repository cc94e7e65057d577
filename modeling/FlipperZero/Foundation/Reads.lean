import FlipperZero.Foundation.Memory

/-!
# Programs that read from an array

A `Reads` program reads bytes by their indexes and returns a value, or a check stops it. The
indexes that it reads are kept. `m.Inside n` says that no check stops `m` and that it reads
nothing behind the first `n` bytes.
-/

namespace Foundation

/-- A program that reads bytes: the indexes, and the value unless a check stops it. -/
structure Reads (α : Type) where
  indexes : List Nat
  value : Option α

namespace Reads

variable {α β : Type}

instance : Monad Reads where
  pure a := ⟨[], some a⟩
  bind m f :=
    match m.value with
    | some a => ⟨m.indexes ++ (f a).indexes, (f a).value⟩
    | none   => ⟨m.indexes, none⟩

def readAt (mem : Memory) (i : Nat) : Reads (BitVec 8) := ⟨[i], some (mem i)⟩

/-- Read a number of bytes from an index on, in an operation that checks its arguments first. -/
def readRange (start size : Nat) (result : Option α) : Reads α :=
  match result with
  | some a => ⟨(List.range size).map (start + ·), some a⟩
  | none   => ⟨[], none⟩

/-- An operation on another array, with its checks. -/
def check (result : Option α) : Reads α := ⟨[], result⟩

/-- The program is not stopped, and what it reads lies in the first `n` bytes. -/
def Inside (n : Nat) (m : Reads α) : Prop := m.value.isSome ∧ ∀ i ∈ m.indexes, i < n

variable {n : Nat} {m : Reads α} {f : α → Reads β}

@[simp] lemma value_pure (a : α) : (pure a : Reads α).value = some a := rfl

@[simp] lemma inside_pure (a : α) : (pure a : Reads α).Inside n :=
  ⟨rfl, fun _ hi => absurd hi List.not_mem_nil⟩

lemma bind_some {a : α} (h : m.value = some a) :
    m >>= f = ⟨m.indexes ++ (f a).indexes, (f a).value⟩ := by
  show (match m.value with
    | some a => (⟨m.indexes ++ (f a).indexes, (f a).value⟩ : Reads β)
    | none   => ⟨m.indexes, none⟩) = _
  rw [h]

lemma bind_none (h : m.value = none) : m >>= f = ⟨m.indexes, none⟩ := by
  show (match m.value with
    | some a => (⟨m.indexes ++ (f a).indexes, (f a).value⟩ : Reads β)
    | none   => ⟨m.indexes, none⟩) = _
  rw [h]

lemma value_bind : (m >>= f).value = m.value.bind fun a => (f a).value := by
  cases hm : m.value with
  | none => rw [bind_none hm, Option.bind_none]
  | some a => rw [bind_some hm, Option.bind_some]

lemma inside_bind :
    (m >>= f).Inside n ↔ m.Inside n ∧ ∀ a, m.value = some a → (f a).Inside n := by
  cases hm : m.value with
  | none =>
    rw [bind_none hm]
    constructor
    · rintro ⟨hvalue, _⟩
      cases hvalue
    · rintro ⟨⟨hvalue, _⟩, _⟩
      rw [hm] at hvalue
      cases hvalue
  | some a =>
    rw [bind_some hm]
    constructor
    · rintro ⟨hvalue, hreads⟩
      refine ⟨⟨by rw [hm]; rfl, fun i hi => hreads i (List.mem_append_left _ hi)⟩, ?_⟩
      rintro b hb
      cases hb
      exact ⟨hvalue, fun i hi => hreads i (List.mem_append_right _ hi)⟩
    · rintro ⟨⟨_, hfirst⟩, hrest⟩
      obtain ⟨hvalue, hsecond⟩ := hrest a rfl
      exact ⟨hvalue, fun i hi => (List.mem_append.mp hi).elim (hfirst i) (hsecond i)⟩

lemma inside_bind_of_value {a : α} (h : m.value = some a) :
    (m >>= f).Inside n ↔ m.Inside n ∧ (f a).Inside n := by
  rw [inside_bind, h]
  simp

instance : Decidable (m.Inside n) := inferInstanceAs (Decidable (_ ∧ _))

@[simp] lemma value_readAt {mem : Memory} {i : Nat} : (readAt mem i).value = some (mem i) := rfl

@[simp] lemma value_check {result : Option α} : (check result).value = result := rfl

@[simp] lemma value_readRange {start size : Nat} {result : Option α} :
    (readRange start size result).value = result := by
  cases result <;> rfl

@[simp] lemma inside_readAt {mem : Memory} {i : Nat} : (readAt mem i).Inside n ↔ i < n := by
  simp [Inside, readAt]

lemma inside_readAt_bind {mem : Memory} {i : Nat} {g : BitVec 8 → Reads β} :
    (readAt mem i >>= g).Inside n ↔ i < n ∧ (g (mem i)).Inside n := by
  rw [inside_bind_of_value value_readAt, inside_readAt]

@[simp] lemma inside_check {result : Option α} : (check result).Inside n ↔ result.isSome := by
  simp [Inside, check]

lemma inside_readRange {start size : Nat} {result : Option α} (h : start + size ≤ n) :
    (readRange start size result).Inside n ↔ result.isSome := by
  cases result with
  | none => simp [Inside, readRange]
  | some a =>
    simp only [Inside, readRange, Option.isSome_some, true_and, iff_true, List.mem_map,
      List.mem_range]
    rintro i ⟨k, hk, rfl⟩
    omega

lemma inside_forM {ι : Type} {g : ι → Reads PUnit} {is : List ι} :
    (forM is g).Inside n ↔ ∀ i ∈ is, (g i).Inside n := by
  induction is with
  | nil => simp
  | cons i is ih =>
    rw [List.forM_cons, inside_bind, List.forall_mem_cons]
    constructor
    · rintro ⟨hfirst, hrest⟩
      obtain ⟨a, ha⟩ := Option.isSome_iff_exists.mp hfirst.1
      exact ⟨hfirst, ih.mp (hrest a ha)⟩
    · rintro ⟨hfirst, hrest⟩
      exact ⟨hfirst, fun _ _ => ih.mpr hrest⟩

end Reads

end Foundation
