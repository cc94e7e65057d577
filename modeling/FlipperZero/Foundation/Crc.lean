import Mathlib.Data.List.GetD
import Mathlib.Tactic.Common

/-!
# Cyclic redundancy checks

A register that takes bits at its lower end and shifts down: the bit that falls out, added to the
one that is taken, says whether the polynomial is added. Its steps are linear, so two runs differ as
a run from the difference of the registers with the difference of the bits.

A polynomial with its highest bit set (`x ^ 0`, as the register is read) shows which bits have been
taken: a run of at most as many bits as the register has ends in zero exactly when the register was
these bits (`crcRun_eq_zero_iff`). So no burst of that length goes unnoticed (`crcRun_burst`).
-/

namespace Foundation

variable {w : Nat} {poly : BitVec w}

/-- The register takes a bit. -/
def crcStep (poly s : BitVec w) (b : Bool) : BitVec w :=
  if s.getLsbD 0 ^^ b then s >>> 1 ^^^ poly else s >>> 1

/-- The register takes bits. -/
def crcRun (poly s : BitVec w) (bits : List Bool) : BitVec w := bits.foldl (crcStep poly) s

/-- The bits of a word, the lowest first. -/
def lsbFirst (x : BitVec w) : List Bool := (List.range w).map x.getLsbD

@[simp] lemma crcRun_nil (s : BitVec w) : crcRun poly s [] = s := rfl

@[simp] lemma crcRun_cons (s : BitVec w) (b : Bool) (bits : List Bool) :
    crcRun poly s (b :: bits) = crcRun poly (crcStep poly s b) bits := rfl

lemma crcRun_append (s : BitVec w) (bits bits' : List Bool) :
    crcRun poly s (bits ++ bits') = crcRun poly (crcRun poly s bits) bits' := List.foldl_append

@[simp] lemma length_lsbFirst (x : BitVec w) : (lsbFirst x).length = w := by simp [lsbFirst]

lemma getD_lsbFirst (x : BitVec w) (i : Nat) : (lsbFirst x).getD i false = x.getLsbD i := by
  by_cases hi : i < w
  · simp [lsbFirst, hi]
  · rw [BitVec.getLsbD_of_ge x i (Nat.not_lt.mp hi)]
    simp [lsbFirst, Nat.not_lt.mp hi]

/-! ### Linearity -/

lemma crcStep_xor (s t : BitVec w) (a b : Bool) :
    crcStep poly (s ^^^ t) (a ^^ b) = crcStep poly s a ^^^ crcStep poly t b := by
  have hbit : (s.getLsbD 0 ^^ t.getLsbD 0 ^^ (a ^^ b)) =
      ((s.getLsbD 0 ^^ a) ^^ (t.getLsbD 0 ^^ b)) := by
    cases s.getLsbD 0 <;> cases t.getLsbD 0 <;> cases a <;> cases b <;> rfl
  simp only [crcStep, BitVec.getLsbD_xor, hbit, BitVec.ushiftRight_xor_distrib]
  cases s.getLsbD 0 ^^ a <;> cases t.getLsbD 0 ^^ b
  · rfl
  · exact BitVec.xor_assoc _ _ _
  · simp only [Bool.xor_false, if_true, Bool.false_eq_true, if_false]
    ac_rfl
  · simp only [Bool.xor_self, Bool.false_eq_true, if_false, if_true]
    have hcomm : s >>> 1 ^^^ poly ^^^ (t >>> 1 ^^^ poly) =
        s >>> 1 ^^^ t >>> 1 ^^^ (poly ^^^ poly) := by
      ac_rfl
    rw [hcomm, BitVec.xor_self, BitVec.xor_zero]

lemma crcRun_xor (poly s t : BitVec w) {a b : List Bool} (h : a.length = b.length) :
    crcRun poly (s ^^^ t) (List.zipWith Bool.xor a b) = crcRun poly s a ^^^ crcRun poly t b := by
  induction a generalizing s t b with
  | nil =>
    rw [List.eq_nil_of_length_eq_zero h.symm]
    rfl
  | cons x a ih =>
    cases b with
    | nil => cases h
    | cons y b =>
      rw [List.zipWith_cons_cons, crcRun_cons, crcStep_xor, ih _ _ (Nat.succ.inj h)]
      rfl

/-! ### Runs that end in zero -/

/-- The bit that says whether the polynomial is added is the highest one of the next register. -/
lemma msb_crcStep (hpoly : poly.getLsbD (w - 1) = true) (s : BitVec w) (b : Bool) :
    (crcStep poly s b).getLsbD (w - 1) = (s.getLsbD 0 ^^ b) := by
  have hhigh : (s >>> 1).getLsbD (w - 1) = false := by
    rw [BitVec.getLsbD_ushiftRight]
    exact BitVec.getLsbD_of_ge s _ (by omega)
  rw [crcStep]
  cases hbit : s.getLsbD 0 ^^ b
  · exact hhigh
  · rw [if_pos rfl, BitVec.getLsbD_xor, hhigh, hpoly, Bool.false_xor]

lemma crcRun_eq_zero_iff (hpoly : poly.getLsbD (w - 1) = true) (s : BitVec w)
    {bits : List Bool} (hle : bits.length ≤ w) :
    crcRun poly s bits = 0 ↔ ∀ i < w, s.getLsbD i = bits.getD i false := by
  induction bits generalizing s with
  | nil =>
    refine ⟨fun h => ?_, fun h => BitVec.eq_of_getLsbD_eq fun i hi => ?_⟩
    · intro i _
      rw [← crcRun_nil s, h]
      simp
    · rw [crcRun_nil, h i hi]
      simp
  | cons b bits ih =>
    have hlt : bits.length < w := hle
    rw [crcRun_cons, ih _ (Nat.le_of_lt hlt)]
    -- in both directions the polynomial is not added
    have hstep (hlow : s.getLsbD 0 = b) (i : Nat) :
        (crcStep poly s b).getLsbD i = s.getLsbD (i + 1) := by
      rw [crcStep, hlow, Bool.xor_self, if_neg Bool.false_ne_true, BitVec.getLsbD_ushiftRight,
        Nat.add_comm]
    constructor
    · intro h
      have hlow : s.getLsbD 0 = b := by
        have htop := h (w - 1) (by omega)
        rw [msb_crcStep hpoly, List.getD_eq_default _ _ (by omega)] at htop
        cases hs : s.getLsbD 0 <;> cases hb : b <;> simp_all
      intro i hi
      cases i with
      | zero => exact hlow
      | succ i =>
        rw [List.getD_cons_succ, ← h i (by omega), hstep hlow]
    · intro h i hi
      have hlow : s.getLsbD 0 = b := h 0 (by omega)
      rw [hstep hlow]
      by_cases hnext : i + 1 < w
      · rw [h (i + 1) hnext, List.getD_cons_succ]
      · rw [BitVec.getLsbD_of_ge s _ (Nat.not_lt.mp hnext), List.getD_eq_default _ _ (by omega)]

/-- A register that is not zero does not become zero by taking nothing but zeros. -/
lemma crcRun_replicate_eq_zero (hpoly : poly.getLsbD (w - 1) = true) (hw : 0 < w) {n : Nat}
    {s : BitVec w} (h : crcRun poly s (List.replicate n false) = 0) : s = 0 := by
  induction n generalizing s with
  | zero => exact h
  | succ n ih =>
    rw [List.replicate_succ, crcRun_cons] at h
    have hone := (crcRun_eq_zero_iff hpoly s (show [false].length ≤ w from hw)).mp (ih h)
    refine BitVec.eq_of_getLsbD_eq fun i hi => ?_
    rw [hone i hi]
    cases i <;> simp

lemma zipWith_xor_self (bits : List Bool) :
    List.zipWith Bool.xor bits bits = List.replicate bits.length false := by
  induction bits with
  | nil => rfl
  | cons b bits ih =>
    rw [List.zipWith_cons_cons, Bool.xor_self, ih]
    rfl

lemma crcRun_injective (hpoly : poly.getLsbD (w - 1) = true) (hw : 0 < w) (bits : List Bool)
    {s t : BitVec w} (h : crcRun poly s bits = crcRun poly t bits) : s = t := by
  have hdiff := crcRun_xor poly s t (rfl : bits.length = bits.length)
  rw [h, BitVec.xor_self, zipWith_xor_self] at hdiff
  exact BitVec.xor_eq_zero_iff.mp (crcRun_replicate_eq_zero hpoly hw hdiff)

/-- Different bits in the same places, no more than the register has, are noticed. -/
theorem crcRun_burst (hpoly : poly.getLsbD (w - 1) = true) (hw : 0 < w) {x y : List Bool}
    (hlen : x.length = y.length) (hle : x.length ≤ w) (s : BitVec w) (before after : List Bool)
    (h : crcRun poly s (before ++ x ++ after) = crcRun poly s (before ++ y ++ after)) : x = y := by
  simp only [crcRun_append] at h
  have hsame := crcRun_injective hpoly hw after h
  have hdiff := crcRun_xor poly (crcRun poly s before) (crcRun poly s before) hlen
  have hzip : (List.zipWith Bool.xor x y).length ≤ w := by
    rw [List.length_zipWith, hlen, Nat.min_self, ← hlen]
    exact hle
  rw [hsame, BitVec.xor_self, BitVec.xor_self] at hdiff
  have hzero := (crcRun_eq_zero_iff hpoly 0 hzip).mp hdiff
  refine List.ext_getElem hlen fun i hx hy => ?_
  have hi := hzero i (Nat.lt_of_lt_of_le hx hle)
  rw [List.getD_eq_getElem _ _ (by rw [List.length_zipWith]; omega), List.getElem_zipWith] at hi
  cases hxi : x[i] <;> cases hyi : y[i] <;> simp_all

/-! ### Words that are taken -/

lemma crcRun_eq_replicate (hpoly : poly.getLsbD (w - 1) = true) {bits : List Bool}
    (hle : bits.length ≤ w) {x : BitVec w} (hx : ∀ i < w, x.getLsbD i = bits.getD i false)
    (s : BitVec w) :
    crcRun poly s bits = crcRun poly (s ^^^ x) (List.replicate bits.length false) := by
  have hzero := (crcRun_eq_zero_iff hpoly x hle).mpr hx
  have hdiff := crcRun_xor poly s x (rfl : bits.length = bits.length)
  rw [zipWith_xor_self, hzero] at hdiff
  exact (hdiff.trans BitVec.xor_zero).symm

/-- A register takes its own checksum: it ends where every register does that takes what the word
is off by. -/
lemma crcRun_lsbFirst_eq_iff (hpoly : poly.getLsbD (w - 1) = true) (hw : 0 < w)
    (s x mask : BitVec w) :
    crcRun poly s (lsbFirst x) = crcRun poly mask (List.replicate w false) ↔ s ^^^ mask = x := by
  rw [crcRun_eq_replicate hpoly (Nat.le_of_eq (length_lsbFirst x))
    (fun i _ => (getD_lsbFirst x i).symm) s, length_lsbFirst]
  constructor
  · intro h
    rw [← crcRun_injective hpoly hw _ h, ← BitVec.xor_assoc, BitVec.xor_self, BitVec.zero_xor]
  · intro h
    rw [← h, ← BitVec.xor_assoc, BitVec.xor_self, BitVec.zero_xor]

end Foundation
