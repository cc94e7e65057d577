import Mathlib.Algebra.BigOperators.Intervals
import Mathlib.Algebra.Order.BigOperators.Group.Finset
import Mathlib.Tactic.Linarith

/-!
# Pieces laid end to end

Pieces of lengths `len a, len (a + 1), …` stand one behind the other. A place is the piece it falls
into and how far into it, and is determined by its distance from the start.
-/

namespace Foundation

open Finset

variable {len : Nat → Nat} {a k k' d d' : Nat}

/-- Where piece `k` starts, when piece `a` is the first. -/
def pieceStart (len : Nat → Nat) (a k : Nat) : Nat := ∑ i ∈ Ico a k, len i

@[simp] lemma pieceStart_self : pieceStart len a a = 0 := by
  simp [pieceStart]

lemma pieceStart_succ (len : Nat → Nat) (h : a ≤ k) :
    pieceStart len a (k + 1) = pieceStart len a k + len k :=
  sum_Ico_succ_top h len

lemma pieceStart_mono (len : Nat → Nat) (a : Nat) (h : k ≤ k') :
    pieceStart len a k ≤ pieceStart len a k' :=
  sum_le_sum_of_subset (Ico_subset_Ico_right h)

lemma piece_le (ha : a ≤ k) (hd : d < len k)
    (h : pieceStart len a k + d = pieceStart len a k' + d') : k' ≤ k := by
  by_contra hlt
  have hend : pieceStart len a (k + 1) ≤ pieceStart len a k' := pieceStart_mono len a (by omega)
  rw [pieceStart_succ len ha] at hend
  omega

/-- The distance from the start determines the piece and how far into it. -/
theorem piece_unique (ha : a ≤ k) (ha' : a ≤ k') (hd : d < len k) (hd' : d' < len k')
    (h : pieceStart len a k + d = pieceStart len a k' + d') : k = k' ∧ d = d' := by
  have hk : k = k' := Nat.le_antisymm (piece_le ha' hd' h.symm) (piece_le ha hd h)
  subst hk
  exact ⟨rfl, by omega⟩

end Foundation
