import Mathlib.Tactic.Common

/-!
# Programs that may stop

A `Program` runs on a state. It returns a value, or stops without one: it crashes, waits for
ever or runs out of the rounds it was given. The state it stops in is kept.

Two kinds of statements are made about programs. `m.Returns s a s'` is a finished run.
`m.Keeps I Q` says that every run, finished or not, keeps the invariant `I`, and that a finished one
returns a value with `Q`.
-/

namespace Foundation

/-- A program over the states `σ`. -/
def Program (σ α : Type) : Type := σ → Option α × σ

namespace Program

variable {σ α β : Type}

instance : Monad (Program σ) where
  pure a := fun s => (some a, s)
  bind m f := fun s =>
    match m s with
    | (some a, s') => f a s'
    | (none, s')   => (none, s')

def stop : Program σ α := fun s => (none, s)

def operation (f : σ → α × σ) : Program σ α := fun s => (some (f s).1, (f s).2)

/-- A finished run. -/
def Returns (m : Program σ α) (s : σ) (a : α) (s' : σ) : Prop := m s = (some a, s')

variable {m : Program σ α} {f : α → Program σ β} {s s' : σ} {a : α} {b : β}

lemma returns_pure (a : α) (s : σ) : (pure a : Program σ α).Returns s a s := rfl

lemma Returns.bind_eq (h : m.Returns s a s') : (m >>= f) s = f a s' := by
  have hrun : (m >>= f) s = (match m s with
    | (some a, s') => f a s'
    | (none, s')   => (none, s')) := rfl
  rw [hrun, show m s = (some a, s') from h]

lemma Returns.bind {s'' : σ} (h : m.Returns s a s') (hf : (f a).Returns s' b s'') :
    (m >>= f).Returns s b s'' := h.bind_eq.trans hf

/-! ### What every run keeps -/

/-- Every run keeps an invariant, and what is returned has a property. -/
def Keeps (I : σ → Prop) (Q : α → Prop) (m : Program σ α) : Prop :=
  ∀ s, I s → I (m s).2 ∧ ∀ a s', m.Returns s a s' → Q a

variable {I : σ → Prop} {Q : α → Prop} {Q' : β → Prop}

lemma Keeps.returns (h : m.Keeps I Q) (hs : I s) (hm : m.Returns s a s') : I s' ∧ Q a := by
  have hkept := (h s hs).1
  rw [hm] at hkept
  exact ⟨hkept, (h s hs).2 a s' hm⟩

lemma Keeps.pure (h : Q a) : (pure a : Program σ α).Keeps I Q := by
  refine fun s hs => ⟨hs, fun a' s' hm => ?_⟩
  cases hm
  exact h

lemma Keeps.stop : (stop : Program σ α).Keeps I Q := by
  refine fun s hs => ⟨hs, fun a s' hm => ?_⟩
  cases hm

lemma Keeps.operation {g : σ → α × σ} (h : ∀ s, I s → I (g s).2 ∧ Q (g s).1) :
    (operation g).Keeps I Q := by
  refine fun s hs => ⟨(h s hs).1, fun a s' hm => ?_⟩
  cases hm
  exact (h s hs).2

lemma Keeps.bind (h : m.Keeps I Q) (hf : ∀ a, Q a → (f a).Keeps I Q') :
    (m >>= f).Keeps I Q' := by
  intro s hs
  have hrun : (m >>= f) s = (match m s with
    | (some a, s') => f a s'
    | (none, s')   => (none, s')) := rfl
  have hkept := (h s hs).1
  unfold Returns
  rw [hrun]
  cases hm : m s with
  | mk r s₁ =>
    rw [hm] at hkept
    cases r with
    | none =>
      refine ⟨hkept, fun b s' hb => ?_⟩
      cases hb
    | some a => exact hf a ((h s hs).2 a s₁ hm) s₁ hkept

lemma Keeps.ite {c : Prop} [Decidable c] {m' : Program σ α} (h : c → m.Keeps I Q)
    (h' : ¬c → m'.Keeps I Q) : (if c then m else m').Keeps I Q := by
  split_ifs with hc
  · exact h hc
  · exact h' hc

end Program

end Foundation
