import Mathlib.Data.List.Chain
import Mathlib.Algebra.Ring.Nat

/-!
# Runs of one level

Levels with their lengths, put together to runs: a piece of the same level, or one that is shorter
than a limit, belongs to the run before it. The runs alternate, and no length is lost.
-/

namespace Foundation

/-- Two pieces with different levels. -/
def OppositeLevels (p q : Bool × Nat) : Prop := q.1 = !p.1

/-- The runs of pieces behind a run of some length. -/
def runsFrom (limit : Nat) (level : Bool) (length : Nat) : List (Bool × Nat) → List (Bool × Nat)
  | []                  => [(level, length)]
  | (l, n) :: pieces =>
    if n < limit ∨ level = l then runsFrom limit level (length + n) pieces
    else (level, length) :: runsFrom limit l n pieces

lemma exists_runsFrom_eq_cons (limit : Nat) (level : Bool) (length : Nat)
    (pieces : List (Bool × Nat)) :
    ∃ n rest, runsFrom limit level length pieces = (level, n) :: rest ∧ length ≤ n := by
  induction pieces generalizing length with
  | nil => exact ⟨length, [], rfl, Nat.le_refl _⟩
  | cons p pieces ih =>
    obtain ⟨l, n⟩ := p
    rw [runsFrom]
    split_ifs
    · obtain ⟨m, rest, hruns, hle⟩ := ih (length + n)
      exact ⟨m, rest, hruns, Nat.le_trans (Nat.le_add_right _ _) hle⟩
    · exact ⟨length, _, rfl, Nat.le_refl _⟩

lemma isChain_runsFrom (limit : Nat) (level : Bool) (length : Nat) (pieces : List (Bool × Nat)) :
    (runsFrom limit level length pieces).IsChain OppositeLevels := by
  induction pieces generalizing level length with
  | nil => exact List.isChain_singleton _
  | cons p pieces ih =>
    obtain ⟨l, n⟩ := p
    rw [runsFrom]
    split_ifs with h
    · exact ih level (length + n)
    · obtain ⟨m, rest, hruns, -⟩ := exists_runsFrom_eq_cons limit l n pieces
      have hchain := ih l n
      rw [hruns] at hchain ⊢
      refine List.isChain_cons_cons.mpr ⟨?_, hchain⟩
      have hne : level ≠ l := fun heq => h (.inr heq)
      rw [OppositeLevels]
      cases level <;> cases l <;> simp_all

lemma sum_runsFrom (limit : Nat) (level : Bool) (length : Nat) (pieces : List (Bool × Nat)) :
    ((runsFrom limit level length pieces).map Prod.snd).sum =
      length + (pieces.map Prod.snd).sum := by
  induction pieces generalizing level length with
  | nil => simp [runsFrom]
  | cons p pieces ih =>
    obtain ⟨l, n⟩ := p
    rw [runsFrom]
    split_ifs
    · rw [ih, List.map_cons, List.sum_cons, Nat.add_assoc]
    · rw [List.map_cons, List.sum_cons, ih, List.map_cons, List.sum_cons]

/-! ### Runs of bits -/

def bitRuns : List Bool → List (Bool × Nat)
  | []        => []
  | b :: bits => runsFrom 0 b 1 (bits.map (·, 1))

def expandRuns (runs : List (Bool × Nat)) : List Bool := runs.flatMap fun r => List.replicate r.2 r.1

lemma expandRuns_runsFrom (b : Bool) (n : Nat) (bits : List Bool) :
    expandRuns (runsFrom 0 b n (bits.map (·, 1))) = List.replicate n b ++ bits := by
  induction bits generalizing b n with
  | nil => simp [runsFrom, expandRuns]
  | cons c bits ih =>
    rw [List.map_cons, runsFrom]
    split_ifs with h
    · obtain rfl : b = c := h.resolve_left (Nat.not_lt_zero 1)
      rw [ih, List.replicate_add, List.append_assoc]
      rfl
    · rw [expandRuns, List.flatMap_cons, ← expandRuns, ih]
      rfl

lemma expandRuns_bitRuns (bits : List Bool) : expandRuns (bitRuns bits) = bits := by
  cases bits with
  | nil => rfl
  | cons b bits => exact expandRuns_runsFrom b 1 bits

lemma isChain_bitRuns (bits : List Bool) : (bitRuns bits).IsChain OppositeLevels := by
  cases bits with
  | nil => exact List.isChain_nil
  | cons b bits => exact isChain_runsFrom 0 b 1 _

lemma bitRuns_ne_nil {bits : List Bool} (h : bits ≠ []) : bitRuns bits ≠ [] := by
  cases bits with
  | nil => exact absurd rfl h
  | cons b bits =>
    obtain ⟨n, rest, hruns, -⟩ := exists_runsFrom_eq_cons 0 b 1 (bits.map (·, 1))
    rw [bitRuns, hruns]
    exact List.cons_ne_nil _ _

lemma pos_of_mem_runsFrom {limit length : Nat} {level : Bool} {pieces : List (Bool × Nat)}
    (hlength : 0 < length) (hpieces : ∀ p ∈ pieces, 0 < p.2) :
    ∀ r ∈ runsFrom limit level length pieces, 0 < r.2 := by
  induction pieces generalizing level length with
  | nil =>
    intro r hr
    rw [List.mem_singleton.mp hr]
    exact hlength
  | cons p pieces ih =>
    obtain ⟨l, n⟩ := p
    have hrest := fun p hp => hpieces p (List.mem_cons_of_mem _ hp)
    rw [runsFrom]
    split_ifs
    · exact ih (Nat.add_pos_left hlength n) hrest
    · rw [List.forall_mem_cons]
      exact ⟨hlength, ih (hpieces _ List.mem_cons_self) hrest⟩

lemma pos_of_mem_bitRuns {bits : List Bool} : ∀ r ∈ bitRuns bits, 0 < r.2 := by
  cases bits with
  | nil => exact fun _ h => nomatch h
  | cons b bits =>
    refine pos_of_mem_runsFrom Nat.one_pos fun p hp => ?_
    obtain ⟨c, -, rfl⟩ := List.mem_map.mp hp
    exact Nat.one_pos

end Foundation
