import FlipperZero.Foundation.Loop

/-!
# Scanners

A scanner reads a list one element at a time: each step goes on in a new state or leaves with a
result. `scanFrom step i s l` runs a scanner over `l`, whose first element has the index `i`, and
says where it was left. The rules take a list apart: scanning an appended list goes on where the
first part ended, and an element at which every state leaves hides what lies behind it.
-/

namespace Foundation

variable {σ β ρ : Type*} {step : σ → β → Round σ ρ} {i k : Nat} {s : σ} {xs ys : List β} {b : β}

/-- Run a scanner; the result comes with the index of the element at which it was left. -/
def scanFrom (step : σ → β → Round σ ρ) : Nat → σ → List β → Round σ (ρ × Nat)
  | _, s, []      => .again s
  | i, s, b :: bs =>
    match step s b with
    | .again s' => scanFrom step (i + 1) s' bs
    | .leave r  => .leave (r, i)

@[simp] lemma scanFrom_nil : scanFrom step i s [] = .again s := rfl

lemma scanFrom_cons_again {s' : σ} (h : step s b = .again s') :
    scanFrom step i s (b :: xs) = scanFrom step (i + 1) s' xs := by
  rw [scanFrom, h]

lemma scanFrom_cons_leave {r : ρ} (h : step s b = .leave r) :
    scanFrom step i s (b :: xs) = .leave (r, i) := by
  rw [scanFrom, h]

lemma scanFrom_append_again {s' : σ} (h : scanFrom step i s xs = .again s') :
    scanFrom step i s (xs ++ ys) = scanFrom step (i + xs.length) s' ys := by
  induction xs generalizing i s with
  | nil =>
    obtain rfl : s = s' := Round.again.inj h
    rfl
  | cons b xs ih =>
    rw [scanFrom] at h
    cases hstep : step s b with
    | again s₁ =>
      rw [hstep] at h
      rw [List.cons_append, scanFrom_cons_again hstep, ih h, List.length_cons]
      congr 1
      omega
    | leave r =>
      rw [hstep] at h
      cases h

lemma scanFrom_append_leave {r : ρ × Nat} (h : scanFrom step i s xs = .leave r) :
    scanFrom step i s (xs ++ ys) = .leave r := by
  induction xs generalizing i s with
  | nil => cases h
  | cons b xs ih =>
    rw [scanFrom] at h
    cases hstep : step s b with
    | again s₁ =>
      rw [hstep] at h
      rw [List.cons_append, scanFrom_cons_again hstep, ih h]
    | leave r' =>
      rw [hstep] at h
      rw [List.cons_append, scanFrom_cons_leave hstep]
      exact h

/-- A scanner that stays in its state at every element goes through the list. -/
lemma scanFrom_of_stays (h : ∀ b ∈ xs, step s b = .again s) : scanFrom step i s xs = .again s := by
  induction xs generalizing i with
  | nil => rfl
  | cons b xs ih =>
    rw [scanFrom_cons_again (h b List.mem_cons_self)]
    exact ih fun c hc => h c (List.mem_cons_of_mem b hc)

lemma scanFrom_leave_bounds {r : ρ} {j : Nat} (h : scanFrom step i s xs = .leave (r, j)) :
    i ≤ j ∧ j < i + xs.length := by
  induction xs generalizing i s with
  | nil => cases h
  | cons b xs ih =>
    rw [scanFrom] at h
    cases hstep : step s b with
    | again s₁ =>
      rw [hstep] at h
      have hbounds := ih h
      rw [List.length_cons]
      omega
    | leave r' =>
      rw [hstep] at h
      cases h
      rw [List.length_cons]
      omega

lemma scanFrom_add (step : σ → β → Round σ ρ) (i k : Nat) (s : σ) (xs : List β) :
    scanFrom step (i + k) s xs =
      match scanFrom step i s xs with
      | .again s' => .again s'
      | .leave (r, j) => .leave (r, j + k) := by
  induction xs generalizing i s with
  | nil => rfl
  | cons b xs ih =>
    cases hstep : step s b with
    | again s₁ =>
      rw [scanFrom_cons_again hstep, scanFrom_cons_again hstep, ← ih]
      congr 1
      omega
    | leave r => rw [scanFrom_cons_leave hstep, scanFrom_cons_leave hstep]

/-- Every state leaves at the element. -/
def Stops (step : σ → β → Round σ ρ) (b : β) : Prop := ∀ s, ∃ r, step s b = .leave r

/-- A scanner is left at the latest at an element where every state leaves, whatever follows. -/
lemma Stops.scanFrom_eq (h : Stops step b) (s : σ) (xs : List β) :
    ∃ r j, j ≤ xs.length ∧ ∀ i ys, scanFrom step i s (xs ++ b :: ys) = .leave (r, i + j) := by
  have hzero : ∃ r j, j ≤ xs.length ∧ ∀ ys, scanFrom step 0 s (xs ++ b :: ys) = .leave (r, j) := by
    cases hscan : scanFrom step 0 s xs with
    | again s' =>
      obtain ⟨r, hr⟩ := h s'
      exact ⟨r, 0 + xs.length, by omega, fun ys => by
        rw [scanFrom_append_again hscan, scanFrom_cons_leave hr]⟩
    | leave r =>
      obtain ⟨r, j⟩ := r
      have hlt := (scanFrom_leave_bounds hscan).2
      exact ⟨r, j, by omega, fun ys => scanFrom_append_leave hscan⟩
  obtain ⟨r, j, hj, hscan⟩ := hzero
  refine ⟨r, j, hj, fun i ys => ?_⟩
  have hadd := scanFrom_add step 0 i s (xs ++ b :: ys)
  rw [hscan ys, Nat.zero_add] at hadd
  rw [hadd, Nat.add_comm]

end Foundation
