import FlipperZero.Foundation.Mealy
import Mathlib.Data.List.Basic

/-!
# Inputs without an effect

A machine that reads from a bad line gets inputs that it ignores. `Heard quiet carries is ks` says
that `ks` is left of `is`: some inputs are quiet, and each of the others carries an input of a
second machine. When a quiet input is answered with silence and leaves the states related, the
first machine answers as the second one does, but for the silence.
-/

namespace Foundation

variable {σ τ ι κ ο : Type*}

/-- What is left of a list of inputs without the quiet ones. -/
inductive Heard (quiet : ι → Prop) (carries : ι → κ → Prop) : List ι → List κ → Prop where
  | nil : Heard quiet carries [] []
  | carry {i : ι} {k : κ} {is : List ι} {ks : List κ} (hi : carries i k)
      (h : Heard quiet carries is ks) : Heard quiet carries (i :: is) (k :: ks)
  | drop {i : ι} {is : List ι} {ks : List κ} (hi : quiet i) (h : Heard quiet carries is ks) :
      Heard quiet carries (i :: is) ks

/-- Quiet inputs have no effect on the answers and on the related states. -/
theorem Heard.simulation [DecidableEq ο] {M : Mealy σ ι ο} {N : Mealy τ κ ο} {R : σ → τ → Prop}
    {quiet : ι → Prop} {carries : ι → κ → Prop} {silent : ο} {is : List ι} {ks : List κ}
    (h : Heard quiet carries is ks)
    (hcarry : ∀ s t i k, R s t → carries i k →
      (M.step s i).1 = (N.step t k).1 ∧ R (M.step s i).2 (N.step t k).2)
    (hdrop : ∀ s t i, R s t → quiet i → (M.step s i).1 = silent ∧ R (M.step s i).2 t)
    {s : σ} {t : τ} (hs : R s t) :
    (M.outputs s is).filter (· ≠ silent) = (N.outputs t ks).filter (· ≠ silent) ∧
      R (M.final s is) (N.final t ks) := by
  induction h generalizing s t with
  | nil => exact ⟨rfl, hs⟩
  | @carry i k is ks hi _ ih =>
    obtain ⟨hout, hnext⟩ := hcarry s t i k hs hi
    obtain ⟨houts, hfinal⟩ := ih hnext
    rw [Mealy.outputs_cons, Mealy.outputs_cons, List.filter_cons, List.filter_cons, hout, houts]
    exact ⟨rfl, hfinal⟩
  | @drop i is ks hi _ ih =>
    obtain ⟨hout, hnext⟩ := hdrop s t i hs hi
    obtain ⟨houts, hfinal⟩ := ih hnext
    rw [Mealy.outputs_cons, hout, List.filter_cons_of_neg (by simp), houts]
    exact ⟨rfl, hfinal⟩

end Foundation
