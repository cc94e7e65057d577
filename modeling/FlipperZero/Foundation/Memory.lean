import FlipperZero.Foundation.Bits

/-!
# Memories of bytes

A memory maps addresses to bytes. Words are loaded and stored with their lowest byte first; a
bit of a word is a bit of one of its bytes. `Grows x y` says that no bit of `x` is cleared in
`y`, the relation that one-time programmable bits keep.
-/

namespace Foundation

/-- A memory of bytes. -/
abbrev Memory := Nat → BitVec 8

namespace Memory

/-- The word of `w` bits at an address. -/
def load (w : Nat) (mem : Memory) (a : Nat) : BitVec w :=
  BitVec.ofNat w (loadWord (w / 8) (fun i => (mem i).toNat) a)

/-- Store the bytes of a word at an address. -/
def store {w : Nat} (mem : Memory) (a : Nat) (x : BitVec w) : Memory := fun i =>
  if a ≤ i ∧ i < a + w / 8 then x.extractLsb' (8 * (i - a)) 8 else mem i

def copy (mem : Memory) (a : Nat) (bytes : List (BitVec 8)) : Memory := fun i =>
  if a ≤ i ∧ i < a + bytes.length then bytes.getD (i - a) 0 else mem i

variable {w a k i : Nat} {mem : Memory}

lemma getLsbD_load (hk : k < 8 * (w / 8)) (mem : Memory) (a : Nat) :
    (load w mem a).getLsbD k = (mem (a + k / 8)).getLsbD (k % 8) := by
  have hw : k < w := Nat.lt_of_lt_of_le hk (Nat.mul_div_le w 8)
  rw [load, BitVec.getLsbD_ofNat, decide_eq_true hw, Bool.true_and,
    testBit_loadWord hk fun j _ => (mem (a + j)).isLt]
  rfl

lemma store_of_lt (hi : i < a) (x : BitVec w) : store mem a x i = mem i :=
  if_neg fun h => Nat.not_le.mpr hi h.1

lemma store_of_ge (hi : a + w / 8 ≤ i) (x : BitVec w) : store mem a x i = mem i :=
  if_neg fun h => Nat.not_le.mpr h.2 hi

lemma copy_of_lt {bytes : List (BitVec 8)} (hi : i < a) : copy mem a bytes i = mem i :=
  if_neg fun h => Nat.not_le.mpr hi h.1

lemma copy_of_ge {bytes : List (BitVec 8)} (hi : a + bytes.length ≤ i) :
    copy mem a bytes i = mem i :=
  if_neg fun h => Nat.not_le.mpr h.2 hi

@[simp] lemma copy_nil (mem : Memory) (a : Nat) : mem.copy a [] = mem := by
  funext i
  exact if_neg fun h => Nat.not_le.mpr h.2 h.1

lemma copy_cons (mem : Memory) (a : Nat) (b : BitVec 8) (bytes : List (BitVec 8)) :
    mem.copy a (b :: bytes) = Memory.copy (Function.update mem a b) (a + 1) bytes := by
  funext i
  rcases Nat.lt_trichotomy i a with hlt | rfl | hgt
  · rw [copy_of_lt hlt, copy_of_lt (by omega), Function.update_of_ne (Nat.ne_of_lt hlt)]
  · rw [copy_of_lt (Nat.lt_succ_self i), Function.update_self, copy]
    simp
  · obtain ⟨k, rfl⟩ := Nat.exists_eq_add_of_lt hgt
    have hsub : a + k + 1 - a = k + 1 := by omega
    have hsub' : a + k + 1 - (a + 1) = k := by omega
    have hin : a ≤ a + k + 1 ∧ a + k + 1 < a + (bytes.length + 1) ↔
        a + 1 ≤ a + k + 1 ∧ a + k + 1 < a + 1 + bytes.length := by omega
    simp only [copy, List.length_cons, hin, hsub, hsub', List.getD_cons_succ,
      Function.update_of_ne (Nat.ne_of_gt hgt)]

lemma load_congr {mem mem' : Memory} (h : ∀ i < w / 8, mem' (a + i) = mem (a + i)) :
    load w mem' a = load w mem a := by
  have hloaded (m : Nat) : ∀ b, (∀ i < m, mem' (b + i) = mem (b + i)) →
      loadWord m (fun i => (mem' i).toNat) b = loadWord m (fun i => (mem i).toNat) b := by
    induction m with
    | zero => exact fun _ _ => rfl
    | succ m ih =>
      intro b hb
      rw [loadWord, loadWord, ih (b + 1) fun i hi => by
        rw [Nat.add_assoc, Nat.add_comm 1]
        exact hb (i + 1) (Nat.succ_lt_succ hi)]
      have h0 := hb 0 (Nat.succ_pos m)
      rw [Nat.add_zero] at h0
      rw [h0]
  rw [load, load, hloaded _ a h]

lemma load_store (hw : 8 ∣ w) (mem : Memory) (a : Nat) (x : BitVec w) :
    load w (store mem a x) a = x := by
  apply BitVec.eq_of_getLsbD_eq
  intro k hk
  have hk' : k < 8 * (w / 8) := by rwa [Nat.mul_div_cancel' hw]
  have hin : a ≤ a + k / 8 ∧ a + k / 8 < a + w / 8 :=
    ⟨Nat.le_add_right _ _, Nat.add_lt_add_left (Nat.div_lt_of_lt_mul hk') _⟩
  rw [getLsbD_load hk', store, if_pos hin, BitVec.getLsbD_extractLsb', Nat.add_sub_cancel_left,
    decide_eq_true (Nat.mod_lt _ (Nat.succ_pos 7)), Bool.true_and, Nat.div_add_mod]

/-! ### Streams of bits -/

/-- A bit of the memory, the lowest bit of each byte first. -/
def bit (mem : Memory) (i : Nat) : Bool := (mem (i / 8)).getLsbD (i % 8)

lemma bit_congr {mem mem' : Memory} (h : mem' (i / 8) = mem (i / 8)) : mem'.bit i = mem.bit i := by
  rw [bit, bit, h]

lemma bit_update_of_ne {x : BitVec 8} (h : i / 8 ≠ a) :
    bit (Function.update mem a x) i = mem.bit i :=
  bit_congr (Function.update_of_ne h x mem)

lemma bit_update_self {x : BitVec 8} (hk : k < 8) :
    bit (Function.update mem a x) (8 * a + k) = x.getLsbD k := by
  have hdiv : (8 * a + k) / 8 = a := by omega
  have hmod : (8 * a + k) % 8 = k := by omega
  rw [bit, hdiv, hmod, Function.update_self]

/-- The eight bits from any bit on, put together from the two bytes they lie in. -/
lemma getLsbD_shifted (mem : Memory) (p : Nat) (hk : k < 8) :
    (mem (p / 8) >>> (p % 8) ||| mem (p / 8 + 1) <<< (8 - p % 8)).getLsbD k = mem.bit (p + k) := by
  rw [BitVec.getLsbD_or, BitVec.getLsbD_ushiftRight, BitVec.getLsbD_shiftLeft, bit]
  by_cases h : k < 8 - p % 8
  · have hdiv : (p + k) / 8 = p / 8 := by omega
    have hmod : (p + k) % 8 = p % 8 + k := by omega
    simp [hdiv, hmod, h]
  · have hdiv : (p + k) / 8 = p / 8 + 1 := by omega
    have hmod : (p + k) % 8 = k - (8 - p % 8) := by omega
    have hout : (mem (p / 8)).getLsbD (p % 8 + k) = false :=
      BitVec.getLsbD_of_ge _ _ (by omega)
    simp [hdiv, hmod, h, hk, hout]

end Memory

/-! ### Bits that are set once -/

/-- Every bit that is set stays set. -/
def Grows {w : Nat} (x y : BitVec w) : Prop :=
  ∀ k, x.getLsbD k = true → y.getLsbD k = true

namespace Grows

variable {w : Nat} {x y z : BitVec w}

protected lemma refl (x : BitVec w) : Grows x x := fun _ h => h

protected lemma trans (hxy : Grows x y) (hyz : Grows y z) : Grows x z :=
  fun k h => hyz k (hxy k h)

lemma or (x y : BitVec w) : Grows x (x ||| y) := by
  intro k h
  rw [BitVec.getLsbD_or, h, Bool.true_or]

end Grows

end Foundation
