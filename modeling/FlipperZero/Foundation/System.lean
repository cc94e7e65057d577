import Mathlib.Tactic.Common

/-!
# Systems of interleaved steps

A `System` is an executable guarded step function: `step s e` is the state after the event `e`,
`none` when `e` is not enabled in `s`. The threads of a concurrent program are interleaved by
the choice of the events.

`Reaches P s t` says that a run leads from `s` to `t` whose steps all meet the condition `P` on
the state before the step and the event.
-/

namespace Foundation

/-- A transition system with states `σ` and events `ε`. -/
structure System (σ ε : Type*) where
  step : σ → ε → Option σ

namespace System

variable {σ ε : Type*} (S : System σ ε) (P : σ → ε → Prop)

/-- `t` is reached from `s` by steps that all meet `P`. -/
inductive Reaches (s : σ) : σ → Prop where
  | refl : Reaches s s
  | step {t u : σ} {e : ε} (hrun : Reaches s t) (hP : P t e) (hstep : S.step t e = some u) :
      Reaches s u

variable {S P}

/-- What holds at the start and is kept by every step that meets the condition holds in every
state reached. -/
theorem Reaches.invariant {I : σ → Prop} {s t : σ} (hrun : S.Reaches P s t) (hs : I s)
    (hstep : ∀ t u e, I t → P t e → S.step t e = some u → I u) : I t := by
  induction hrun with
  | refl => exact hs
  | step _ hP hnext ih => exact hstep _ _ _ ih hP hnext

lemma Reaches.mono {Q : σ → ε → Prop} {s t : σ} (hrun : S.Reaches P s t)
    (h : ∀ s e, P s e → Q s e) : S.Reaches Q s t := by
  induction hrun with
  | refl => exact .refl
  | step _ hP hnext ih => exact ih.step (h _ _ hP) hnext

variable (S P) in
/-- Replay a list of events; `none` when one of them is not enabled or does not meet `P`. -/
def replay [∀ s e, Decidable (P s e)] : σ → List ε → Option σ
  | s, []      => some s
  | s, e :: es => if P s e then (S.step s e).bind fun s' => replay s' es else none

lemma Reaches.of_replay [∀ s e, Decidable (P s e)] {r s t : σ} {es : List ε}
    (hr : S.Reaches P r s) (h : S.replay P s es = some t) : S.Reaches P r t := by
  induction es generalizing s with
  | nil =>
    obtain rfl : s = t := Option.some.inj h
    exact hr
  | cons e es ih =>
    rw [replay] at h
    split_ifs at h with hP
    obtain ⟨s', hstep, hrest⟩ := Option.bind_eq_some_iff.mp h
    exact ih (hr.step hP hstep) hrest

end System

end Foundation
