import Mathlib.Tactic.Common

/-!
# Input-output machines

A `Mealy` machine answers every input with an output and a new state. Programs with an API
(a stream, a decoder, a card emulator) are machines of this kind: a call is an input, its
return value an output.

`Along P s is` says that every step of the run of `is` from `s` meets `P`, a condition on the
state before the step and its input. The rules below lift what one step preserves to whole
runs: `Along.invariant` for one machine, `Along.simulation` for two.
-/

namespace Foundation

/-- A deterministic machine with states `σ`, inputs `ι` and outputs `ο`. -/
structure Mealy (σ ι ο : Type*) where
  step : σ → ι → ο × σ

namespace Mealy

variable {σ τ ι ο : Type*} (M : Mealy σ ι ο) (N : Mealy τ ι ο)

/-- The state after a list of inputs. -/
def final : σ → List ι → σ
  | s, []      => s
  | s, i :: is => final (M.step s i).2 is

/-- The outputs given to a list of inputs. -/
def outputs : σ → List ι → List ο
  | _, []      => []
  | s, i :: is => (M.step s i).1 :: outputs (M.step s i).2 is

@[simp] lemma final_nil (s : σ) : M.final s [] = s := rfl

@[simp] lemma final_cons (s : σ) (i : ι) (is : List ι) :
    M.final s (i :: is) = M.final (M.step s i).2 is := rfl

@[simp] lemma outputs_nil (s : σ) : M.outputs s [] = [] := rfl

@[simp] lemma outputs_cons (s : σ) (i : ι) (is : List ι) :
    M.outputs s (i :: is) = (M.step s i).1 :: M.outputs (M.step s i).2 is := rfl

/-- Every step of the run of the inputs from `s` meets `P`. -/
def Along (P : σ → ι → Prop) : σ → List ι → Prop
  | _, []      => True
  | s, i :: is => P s i ∧ Along P (M.step s i).2 is

variable {M N} {P Q : σ → ι → Prop} {I : σ → Prop} {s : σ} {is : List ι}

@[simp] lemma along_nil : M.Along P s [] := trivial

@[simp] lemma along_cons {i : ι} :
    M.Along P s (i :: is) ↔ P s i ∧ M.Along P (M.step s i).2 is := Iff.rfl

instance decidableAlong [hP : ∀ s i, Decidable (P s i)] :
    ∀ (s : σ) (is : List ι), Decidable (M.Along P s is)
  | _, []      => .isTrue trivial
  | s, i :: is =>
    have := decidableAlong (M.step s i).2 is
    inferInstanceAs (Decidable (P s i ∧ M.Along P (M.step s i).2 is))

lemma along_append {js : List ι} :
    M.Along P s (is ++ js) ↔ M.Along P s is ∧ M.Along P (M.final s is) js := by
  induction is generalizing s with
  | nil => exact (iff_of_eq (true_and _)).symm
  | cons i is ih => rw [List.cons_append, along_cons, ih, along_cons, final_cons, and_assoc]

lemma final_append {js : List ι} : M.final s (is ++ js) = M.final (M.final s is) js := by
  induction is generalizing s with
  | nil => rfl
  | cons i is ih => rw [List.cons_append, final_cons, ih, final_cons]

lemma outputs_append {js : List ι} :
    M.outputs s (is ++ js) = M.outputs s is ++ M.outputs (M.final s is) js := by
  induction is generalizing s with
  | nil => rfl
  | cons i is ih => rw [List.cons_append, outputs_cons, ih, outputs_cons, final_cons, List.cons_append]

lemma along_congr (h : ∀ s i, P s i ↔ Q s i) : M.Along P s is ↔ M.Along Q s is := by
  induction is generalizing s with
  | nil => exact Iff.rfl
  | cons i is ih => exact and_congr (h s i) ih

/-- What guarded steps preserve holds after a guarded run. -/
theorem Along.invariant (hrun : M.Along P s is)
    (hstep : ∀ s i, I s → P s i → I (M.step s i).2) (hs : I s) : I (M.final s is) := by
  induction is generalizing s with
  | nil => exact hs
  | cons i is ih => exact ih hrun.2 (hstep s i hs hrun.1)

/-- A step property that follows from an invariant holds at every step of a guarded run. -/
theorem Along.mono (hrun : M.Along P s is)
    (hstep : ∀ s i, I s → P s i → I (M.step s i).2)
    (hout : ∀ s i, I s → P s i → Q s i) (hs : I s) : M.Along Q s is := by
  induction is generalizing s with
  | nil => trivial
  | cons i is ih => exact ⟨hout s i hs hrun.1, ih hrun.2 (hstep s i hs hrun.1)⟩

/-- A relation that guarded steps preserve with equal outputs makes whole runs
indistinguishable. -/
theorem Along.simulation {R : σ → τ → Prop} {t : τ} (hrun : M.Along P s is)
    (hstep : ∀ s t i, R s t → P s i →
      (M.step s i).1 = (N.step t i).1 ∧ R (M.step s i).2 (N.step t i).2)
    (hs : R s t) : M.outputs s is = N.outputs t is ∧ R (M.final s is) (N.final t is) := by
  induction is generalizing s t with
  | nil => exact ⟨rfl, hs⟩
  | cons i is ih =>
    obtain ⟨hout, hnext⟩ := hstep s t i hs hrun.1
    obtain ⟨houts, hfin⟩ := ih hrun.2 hnext
    exact ⟨by simp only [outputs_cons, hout, houts], hfin⟩

lemma along_true : M.Along (fun _ _ => True) s is := by
  induction is generalizing s with
  | nil => trivial
  | cons i is ih => exact ⟨trivial, ih⟩

end Mealy

end Foundation
