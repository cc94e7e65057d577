import Mathlib.Tactic.Common

/-!
# Loops with a bound on the rounds

The body of a loop says of a state whether the loop goes on from another one or leaves with a
result. `loop body n s` runs at most `n` rounds. The rule for total correctness asks for an
invariant and a measure that every further round makes smaller.
-/

namespace Foundation

/-- What one round of a loop does. -/
inductive Round (σ α : Type*) where
  /-- The loop goes on. -/
  | again (s : σ)
  /-- The loop is left with a result. -/
  | leave (a : α)

variable {σ α : Type*} {body : σ → Round σ α}

/-- At most `n` rounds of a loop; `none` when it has not been left by then. -/
def loop (body : σ → Round σ α) : Nat → σ → Option α
  | 0, _     => none
  | n + 1, s =>
    match body s with
    | .again s' => loop body n s'
    | .leave a  => some a

lemma loop_again {n : Nat} {s s' : σ} (h : body s = .again s') :
    loop body (n + 1) s = loop body n s' := by
  rw [loop, h]

lemma loop_leave {n : Nat} {s : σ} {a : α} (h : body s = .leave a) :
    loop body (n + 1) s = some a := by
  rw [loop, h]

/-- A loop that has been left stays left when more rounds are allowed. -/
lemma loop_mono {m n : Nat} {s : σ} {a : α} (h : loop body n s = some a) (hle : n ≤ m) :
    loop body m s = some a := by
  induction n generalizing m s with
  | zero => simp [loop] at h
  | succ n ih =>
    unfold loop at h
    obtain ⟨k, hk⟩ := Nat.exists_eq_add_of_le hle
    rw [hk, show n + 1 + k = (n + k) + 1 by omega]
    unfold loop
    cases hb : body s with
    | again s' =>
      rw [hb] at h
      exact ih h (Nat.le_add_right n k)
    | leave a' =>
      rw [hb] at h
      exact h

/-- One round keeps the invariant and makes the measure smaller, or leaves with a result that
meets `Q`. -/
def Round.Meets (I : σ → Prop) (m : σ → Nat) (Q : α → Prop) (bound : Nat) : Round σ α → Prop
  | .again s => I s ∧ m s < bound
  | .leave a => Q a

/-- A loop whose body meets its specification is left, with a result that meets it. -/
theorem loop_total {I : σ → Prop} {m : σ → Nat} {Q : α → Prop}
    (hbody : ∀ s, I s → (body s).Meets I m Q (m s)) {n : Nat} {s : σ} (hs : I s) (hn : m s < n) :
    ∃ a, loop body n s = some a ∧ Q a := by
  induction n generalizing s with
  | zero => exact absurd hn (Nat.not_lt_zero _)
  | succ n ih =>
    have hround := hbody s hs
    unfold loop
    cases hb : body s with
    | again s' =>
      rw [hb] at hround
      exact ih hround.1 (Nat.lt_of_lt_of_le hround.2 (Nat.le_of_lt_succ hn))
    | leave a =>
      rw [hb] at hround
      exact ⟨a, rfl, hround⟩

/-- What every round keeps holds up to the round that leaves, and makes its result meet `Q`. -/
theorem loop_keeps {I : σ → Prop} {Q : α → Prop} (hagain : ∀ s s', I s → body s = .again s' → I s')
    (hleave : ∀ s a, I s → body s = .leave a → Q a) {n : Nat} {s : σ} {a : α} (hs : I s)
    (h : loop body n s = some a) : Q a := by
  induction n generalizing s with
  | zero => exact absurd h nofun
  | succ n ih =>
    unfold loop at h
    cases hb : body s with
    | again s' =>
      rw [hb] at h
      exact ih (hagain s s' hs hb) h
    | leave a' =>
      rw [hb] at h
      exact hleave s a hs (hb.trans (congrArg Round.leave (Option.some.inj h)))

end Foundation
