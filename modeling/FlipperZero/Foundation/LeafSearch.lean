import Mathlib.Data.Nat.Find
import Mathlib.Data.Set.Basic
import Mathlib.Tactic.Common

/-!
# The leaves of a binary tree, one path at a time

A set of paths is the set of the leaves of a binary tree. A search walks the tree along the
previous path down to its last fork, turns there, and takes the left branch at every later fork. It
carries no more than the previous path and the depth of its last fork, and comes to the next leaf
in lexicographic order.
-/

namespace Foundation

variable {S : Set (Nat → Bool)} {P r d : Nat → Bool} {w k L : Nat}

/-- The path `a` is to the left of `d` in the first `w` levels. -/
def Precedes (w : Nat) (a d : Nat → Bool) : Prop :=
  ∃ j < w, (∀ i < j, a i = d i) ∧ a j = false ∧ d j = true

instance (w : Nat) (a d : Nat → Bool) : Decidable (Precedes w a d) := by
  unfold Precedes
  infer_instance

/-- The leaf `d` is below the node that `r` passes in level `k`. -/
def Below (S : Set (Nat → Bool)) (r : Nat → Bool) (k : Nat) (d : Nat → Bool) : Prop :=
  d ∈ S ∧ ∀ i < k, d i = r i

/-- The path `r` goes to the left in level `k` where it could go to the right. -/
def Fork (S : Set (Nat → Bool)) (r : Nat → Bool) (k : Nat) : Prop :=
  r k = false ∧ ∃ d, Below S r k d ∧ d k = true

/-- `L` is the depth of the last fork of `r` above level `k`, and `0` when there is none. -/
def LastFork (S : Set (Nat → Bool)) (r : Nat → Bool) (k L : Nat) : Prop :=
  (L = 0 ∨ ∃ l < k, L = l + 1 ∧ Fork S r l) ∧ ∀ j < k, Fork S r j → j < L

/-- The branch that a search takes in level `k`, after the path `P` with its last fork at `L`. -/
def Chosen (S : Set (Nat → Bool)) (P : Nat → Bool) (L : Nat) (r : Nat → Bool) (k : Nat) : Prop :=
  (∀ d, Below S r k d → d k = r k) ∨
    (∃ d, Below S r k d ∧ d k = true) ∧ (∃ d, Below S r k d ∧ d k = false) ∧
      r k = if k + 1 < L then P k else decide (k + 1 = L)

/-! ### Paths that agree -/

lemma Below.congr {r' : Nat → Bool} (hr : ∀ i < k, r i = r' i) (h : Below S r k d) :
    Below S r' k d :=
  ⟨h.1, fun i hi => (h.2 i hi).trans (hr i hi)⟩

lemma Fork.congr {r' : Nat → Bool} (hr : ∀ i ≤ k, r i = r' i) (h : Fork S r k) : Fork S r' k := by
  obtain ⟨hfalse, d, hd, htrue⟩ := h
  exact ⟨hr k le_rfl ▸ hfalse, d, hd.congr fun i hi => hr i hi.le, htrue⟩

lemma LastFork.congr {r' : Nat → Bool} (hr : ∀ i < k, r i = r' i) (h : LastFork S r k L) :
    LastFork S r' k L := by
  refine ⟨h.1.imp_right ?_, fun j hj hfork => ?_⟩
  · rintro ⟨l, hl, rfl, hfork⟩
    exact ⟨l, hl, rfl, hfork.congr fun i hi => hr i (by omega)⟩
  · exact h.2 j hj (hfork.congr fun i hi => (hr i (by omega)).symm)

lemma Chosen.congr {r' : Nat → Bool} (hr : ∀ i ≤ k, r i = r' i) (h : Chosen S P L r k) :
    Chosen S P L r' k := by
  have hbelow : ∀ d, Below S r k d ↔ Below S r' k d := fun d =>
    ⟨fun hd => hd.congr fun i hi => hr i hi.le, fun hd => hd.congr fun i hi => (hr i hi.le).symm⟩
  unfold Chosen
  simp only [← hbelow, ← hr k le_rfl]
  exact h

lemma Chosen.congr_previous {P' : Nat → Bool} (hP : P k = P' k) (h : Chosen S P L r k) :
    Chosen S P' L r k := by
  unfold Chosen at *
  rwa [← hP]

/-! ### The order of the leaves -/

lemma Precedes.irrefl : ¬Precedes w r r := by
  rintro ⟨j, -, -, hfalse, htrue⟩
  exact absurd (hfalse.symm.trans htrue) nofun

lemma Precedes.trans {a b c : Nat → Bool} (hab : Precedes w a b) (hbc : Precedes w b c) :
    Precedes w a c := by
  obtain ⟨i, hi, heqi, hai, hbi⟩ := hab
  obtain ⟨j, hj, heqj, hbj, hcj⟩ := hbc
  rcases Nat.lt_trichotomy i j with hlt | rfl | hgt
  · exact ⟨i, hi, fun m hm => (heqi m hm).trans (heqj m (by omega)), hai, heqj i hlt ▸ hbi⟩
  · exact absurd (hbi.symm.trans hbj) nofun
  · exact ⟨j, hj, fun m hm => (heqi m (by omega)).trans (heqj m hm), heqi j hgt ▸ hbj, hcj⟩

lemma exists_first_difference {a b : Nat → Bool} (h : ¬∀ i < w, a i = b i) :
    ∃ j < w, (∀ i < j, a i = b i) ∧ a j ≠ b j := by
  push Not at h
  classical
  refine ⟨Nat.find h, (Nat.find_spec h).1, fun i hi => ?_, (Nat.find_spec h).2⟩
  by_contra hne
  exact Nat.find_min h hi ⟨hi.trans (Nat.find_spec h).1, hne⟩

/-! ### The walk of one search -/

lemma exists_below (hS : S.Nonempty) (hr : ∀ i < k, Chosen S P L r i) : ∃ d, Below S r k d := by
  induction k with
  | zero =>
    obtain ⟨d, hd⟩ := hS
    exact ⟨d, hd, fun i hi => absurd hi (Nat.not_lt_zero i)⟩
  | succ k ih =>
    have hext : ∀ {d}, Below S r k d → d k = r k → Below S r (k + 1) d := fun hd hk =>
      ⟨hd.1, fun i hi => (Nat.lt_succ_iff_lt_or_eq.mp hi).elim (hd.2 i) fun h => h ▸ hk⟩
    rcases hr k k.lt_succ_self with hall | ⟨⟨d, hd, hdk⟩, ⟨e, he, hek⟩, -⟩
    · obtain ⟨d, hd⟩ := ih fun i hi => hr i (Nat.lt_succ_of_lt hi)
      exact ⟨d, hext hd (hall d hd)⟩
    · cases hrk : r k with
      | true  => exact ⟨d, hext hd (hdk.trans hrk.symm)⟩
      | false => exact ⟨e, hext he (hek.trans hrk.symm)⟩

lemma LastFork.succ {L' : Nat} (h : LastFork S r k L) (hfork : Fork S r k → L' = k + 1)
    (hnot : ¬Fork S r k → L' = L) : LastFork S r (k + 1) L' := by
  by_cases hk : Fork S r k
  · rw [hfork hk]
    exact ⟨.inr ⟨k, k.lt_succ_self, rfl, hk⟩, fun j hj _ => hj⟩
  · rw [hnot hk]
    refine ⟨h.1.imp_right ?_, fun j hj hj' => ?_⟩
    · rintro ⟨l, hl, rfl, hl'⟩
      exact ⟨l, Nat.lt_succ_of_lt hl, rfl, hl'⟩
    · rcases Nat.lt_succ_iff_lt_or_eq.mp hj with hlt | rfl
      · exact h.2 j hlt hj'
      · exact absurd hj' hk

lemma follows_previous (hP : P ∈ S) (hk : k < L) (hr : ∀ i < k, Chosen S P L r i) :
    ∀ i < k, r i = P i := by
  induction k with
  | zero => exact fun i hi => absurd hi (Nat.not_lt_zero i)
  | succ k ih =>
    have hsame := ih (Nat.lt_of_succ_lt hk) fun i hi => hr i (Nat.lt_succ_of_lt hi)
    have hPk : Below S r k P := ⟨hP, fun i hi => (hsame i hi).symm⟩
    intro i hi
    rcases Nat.lt_succ_iff_lt_or_eq.mp hi with hlt | rfl
    · exact hsame i hlt
    · rcases hr i i.lt_succ_self with hall | ⟨-, -, heq⟩
      · exact (hall P hPk).symm
      · rw [heq, if_pos hk]

/-- At the last fork of the previous path the walk turns to the right. -/
lemma turns_at_fork {l : Nat} (hP : P ∈ S) (hfork : Fork S P l)
    (hr : ∀ i ≤ l, Chosen S P (l + 1) r i) : (∀ i < l, r i = P i) ∧ r l = true := by
  have hsame := follows_previous hP l.lt_succ_self fun i hi => hr i hi.le
  obtain ⟨hfalse, d, hd, htrue⟩ := hfork
  refine ⟨hsame, ?_⟩
  rcases hr l le_rfl with hall | ⟨-, -, heq⟩
  · have h1 := hall d (hd.congr fun i hi => (hsame i hi).symm)
    exact h1.symm.trans htrue
  · rw [heq, if_neg (Nat.lt_irrefl _), decide_eq_true rfl]

lemma leftmost (hr : ∀ i < w, Chosen S P L r i) (hd : d ∈ S) (hsame : ∀ i < L, i < w → d i = r i) :
    (∀ i < w, r i = d i) ∨ Precedes w r d := by
  refine or_iff_not_imp_left.mpr fun hne => ?_
  obtain ⟨j, hj, heq, hdiff⟩ := exists_first_difference hne
  have hLj : L ≤ j := by
    by_contra hlt
    exact hdiff (hsame j (by omega) hj).symm
  refine ⟨j, hj, heq, ?_⟩
  have hbelow : Below S r j d := ⟨hd, fun i hi => (heq i hi).symm⟩
  rcases hr j hj with hall | ⟨-, -, hrj⟩
  · exact absurd (hall d hbelow).symm hdiff
  · rw [if_neg (by omega), decide_eq_false (by omega)] at hrj
    rw [hrj] at hdiff
    exact ⟨hrj, by simpa using hdiff.symm⟩

/-! ### What a search finds -/

/-- The first search, without a previous path, finds a leaf with no leaf to its left. -/
theorem first_leaf (hr : ∀ i < w, Chosen S P 0 r i) (hd : d ∈ S) :
    (∀ i < w, r i = d i) ∨ Precedes w r d :=
  leftmost hr hd fun _ hi => absurd hi (Nat.not_lt_zero _)

/-- A further search finds a leaf to the right of the previous one. -/
theorem precedes_next (hP : P ∈ S) (hL : LastFork S P w L) (hpos : L ≠ 0)
    (hr : ∀ i < w, Chosen S P L r i) : Precedes w P r := by
  obtain ⟨l, hl, rfl, hfork⟩ := hL.1.resolve_left hpos
  obtain ⟨hsame, hturn⟩ := turns_at_fork hP hfork fun i hi => hr i (by omega)
  exact ⟨l, hl, fun i hi => (hsame i hi).symm, hfork.1, hturn⟩

/-- No leaf lies between the previous one and the one found. -/
theorem next_leaf (hP : P ∈ S) (hL : LastFork S P w L) (hpos : L ≠ 0)
    (hr : ∀ i < w, Chosen S P L r i) (hd : d ∈ S) (hPd : Precedes w P d) :
    (∀ i < w, r i = d i) ∨ Precedes w r d := by
  obtain ⟨l, hl, rfl, hfork⟩ := hL.1.resolve_left hpos
  obtain ⟨hsame, hturn⟩ := turns_at_fork hP hfork fun i hi => hr i (by omega)
  obtain ⟨j, hj, heq, hPj, hdj⟩ := hPd
  have hjl : j < l + 1 := hL.2 j hj ⟨hPj, d, ⟨hd, fun i hi => (heq i hi).symm⟩, hdj⟩
  rcases Nat.lt_or_ge j l with hlt | hge
  · exact .inr ⟨j, hj, fun i hi => (hsame i (by omega)).trans (heq i hi),
      (hsame j hlt).trans hPj, hdj⟩
  · have hjl : j = l := by omega
    refine leftmost hr hd fun i hi _ => ?_
    rcases Nat.lt_succ_iff_lt_or_eq.mp hi with hlt | rfl
    · exact (heq i (by omega)).symm.trans (hsame i hlt).symm
    · rw [hturn, ← hjl, hdj]

/-- A path without a fork is the last one. -/
theorem last_leaf (hL : LastFork S P w 0) (hd : d ∈ S) : ¬Precedes w P d := by
  rintro ⟨j, hj, heq, hPj, hdj⟩
  exact absurd (hL.2 j hj ⟨hPj, d, ⟨hd, fun i hi => (heq i hi).symm⟩, hdj⟩) (Nat.not_lt_zero j)

end Foundation
