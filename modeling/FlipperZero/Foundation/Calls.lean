import Mathlib.Data.Fintype.Card
import Mathlib.Data.Fintype.EquivFin
import Mathlib.Logic.Relation

/-!
# Evaluation by calls

The evaluation of a place calls the evaluations of other places, one after another; a place may
also stop the whole evaluation. Recursion and loops (a call in last position) are both of this kind.

On finitely many places an evaluation comes to an end if and only if no place is visited again
while it is being evaluated.
-/

namespace Foundation

open Relation

/-- The calls that the evaluation of a place makes, in order; `none` when it stops everything. -/
structure Calls (π : Type*) where
  sub : π → Option (List π)

/-- Evaluations in order, up to the first that is stopped. -/
def evalAll {π : Type*} (f : π → Option Bool) : List π → Option Bool
  | []      => some true
  | q :: qs => (f q).bind fun done => if done then evalAll f qs else some false

namespace Calls

variable {π : Type*} (C : Calls π)

/-- Evaluation with calls nested at most `n` deep: whether it is completed, or stopped. -/
def eval : Nat → π → Option Bool
  | 0, _     => none
  | n + 1, p =>
    match C.sub p with
    | none    => some false
    | some qs => evalAll (eval n) qs

def Ends (p : π) : Prop := ∃ n b, C.eval n p = some b

def Completes (p : π) : Prop := ∃ n, C.eval n p = some true

/-- The evaluation of `p` gets as far as the call of `q`. -/
def Visits (p q : π) : Prop :=
  ∃ front rest, C.sub p = some (front ++ q :: rest) ∧ ∀ r ∈ front, C.Completes r

variable {C}

lemma eval_of_sub {n : Nat} {p : π} {qs : List π} (h : C.sub p = some qs) :
    C.eval (n + 1) p = evalAll (C.eval n) qs := by
  rw [eval, h]

lemma eval_of_stop {n : Nat} {p : π} (h : C.sub p = none) : C.eval (n + 1) p = some false := by
  rw [eval, h]

lemma eval_of_tail {n : Nat} {p q : π} (h : C.sub p = some [q]) :
    C.eval (n + 1) p = C.eval n q := by
  rw [eval_of_sub h, evalAll]
  cases C.eval n q with
  | none => rfl
  | some done => cases done <;> rfl

lemma evalAll_mono {f g : π → Option Bool} (h : ∀ q b, f q = some b → g q = some b)
    {qs : List π} {b : Bool} (hf : evalAll f qs = some b) : evalAll g qs = some b := by
  induction qs with
  | nil => exact hf
  | cons q qs ih =>
    rw [evalAll] at hf ⊢
    obtain ⟨done, hq, hrest⟩ := Option.bind_eq_some_iff.mp hf
    rw [h q done hq, Option.bind_some]
    split_ifs at hrest ⊢ with hdone
    · exact ih hrest
    · exact hrest

lemma eval_succ {n : Nat} {p : π} {b : Bool} (h : C.eval n p = some b) :
    C.eval (n + 1) p = some b := by
  induction n generalizing p b with
  | zero => simp [eval] at h
  | succ n ih =>
    rw [eval] at h ⊢
    cases hsub : C.sub p with
    | none => rw [hsub] at h; exact h
    | some qs =>
      rw [hsub] at h
      exact evalAll_mono (fun q b => ih) h

lemma eval_mono {m n : Nat} {p : π} {b : Bool} (hle : n ≤ m) (h : C.eval n p = some b) :
    C.eval m p = some b := by
  induction hle with
  | refl => exact h
  | step _ ih => exact eval_succ ih

lemma eval_unique {m n : Nat} {p : π} {b b' : Bool} (h : C.eval m p = some b)
    (h' : C.eval n p = some b') : b = b' := by
  have hmax := eval_mono (Nat.le_max_left m n) h
  rw [eval_mono (Nat.le_max_right m n) h'] at hmax
  exact (Option.some.inj hmax).symm

lemma evalAll_reached {n : Nat} {front rest : List π} {q : π} {b : Bool}
    (h : evalAll (C.eval n) (front ++ q :: rest) = some b) (hfront : ∀ r ∈ front, C.Completes r) :
    ∃ b', C.eval n q = some b' := by
  induction front with
  | nil =>
    obtain ⟨b', hq, -⟩ := Option.bind_eq_some_iff.mp h
    exact ⟨b', hq⟩
  | cons r front ih =>
    obtain ⟨done, hr, hrest⟩ := Option.bind_eq_some_iff.mp h
    obtain ⟨m, hm⟩ := hfront r List.mem_cons_self
    rw [eval_unique hr hm, if_pos rfl] at hrest
    exact ih hrest fun r' hr' => hfront r' (List.mem_cons_of_mem _ hr')

lemma Ends.acc {p : π} (h : C.Ends p) : Acc (fun q p => C.Visits p q) p := by
  obtain ⟨n, b, h⟩ := h
  induction n generalizing p b with
  | zero => simp [eval] at h
  | succ n ih =>
    refine ⟨p, fun q hvisit => ?_⟩
    obtain ⟨front, rest, hsub, hfront⟩ := hvisit
    rw [eval, hsub] at h
    obtain ⟨b', hq⟩ := evalAll_reached h hfront
    exact ih b' hq

/-- Calls that all come to an end, as far as they are reached. -/
lemma evalAll_ends {qs : List π}
    (h : ∀ front q rest, qs = front ++ q :: rest → (∀ r ∈ front, C.Completes r) → C.Ends q) :
    ∃ n b, evalAll (C.eval n) qs = some b := by
  induction qs with
  | nil => exact ⟨0, true, rfl⟩
  | cons q qs ih =>
    obtain ⟨m, done, hm⟩ := h [] q qs rfl (by simp)
    cases done with
    | false => exact ⟨m, false, by rw [evalAll, hm]; rfl⟩
    | true =>
      obtain ⟨n, b, hn⟩ := ih fun front r rest hqs hfront =>
        h (q :: front) r rest (by rw [hqs]; rfl) (by
          intro r' hr'
          rcases List.mem_cons.mp hr' with rfl | hr'
          · exact ⟨m, hm⟩
          · exact hfront r' hr')
      refine ⟨max m n, b, ?_⟩
      rw [evalAll, eval_mono (Nat.le_max_left m n) hm]
      exact evalAll_mono (fun _ _ => eval_mono (Nat.le_max_right m n)) hn

lemma Ends.of_visits {p : π} (h : ∀ q, C.Visits p q → C.Ends q) : C.Ends p := by
  cases hsub : C.sub p with
  | none => exact ⟨1, false, by rw [eval, hsub]⟩
  | some qs =>
    obtain ⟨n, b, hn⟩ : ∃ n b, evalAll (C.eval n) qs = some b :=
      evalAll_ends fun front q rest hqs hfront => h q ⟨front, rest, by rw [hsub, hqs], hfront⟩
    exact ⟨n + 1, b, by rw [eval, hsub]; exact hn⟩

lemma not_rel_self_of_acc {r : π → π → Prop} {p : π} (h : Acc r p) : ¬ r p p := by
  induction h with
  | intro p _ ih => exact fun hself => ih p hself hself

/-- An evaluation ends if and only if it never visits a place again that it is evaluating. -/
theorem ends_iff [Finite π] {p : π} :
    C.Ends p ↔ ∀ q, ReflTransGen C.Visits p q → ¬ TransGen C.Visits q q := by
  constructor
  · intro hends q hreach hcycle
    have hacc : ∀ r, ReflTransGen C.Visits p r → Acc (fun q p => C.Visits p q) r := by
      intro r hr
      induction hr with
      | refl => exact hends.acc
      | tail _ hvisit ih => exact ih.inv hvisit
    exact not_rel_self_of_acc (hacc q hreach).transGen (transGen_swap.mpr hcycle)
  · intro hacyclic
    let above : {q // ReflTransGen C.Visits p q} → {q // ReflTransGen C.Visits p q} → Prop :=
      fun q r => TransGen C.Visits r.1 q.1
    have hwf : WellFounded above := by
      have : IsTrans _ above := ⟨fun _ _ _ hqr hrs => hrs.trans hqr⟩
      have : Std.Irrefl above := ⟨fun q => hacyclic q.1 q.2⟩
      exact Finite.wellFounded_of_trans_of_irrefl above
    have hall : ∀ q : {q // ReflTransGen C.Visits p q}, C.Ends q.1 := by
      intro q
      induction q using hwf.induction with
      | _ q ih =>
        exact .of_visits fun r hvisit => ih ⟨r, q.2.tail hvisit⟩ (.single hvisit)
    exact hall ⟨p, .refl⟩

/-! ### Calls by themselves

What an evaluation comes to can be told from the calls alone: a call is made unless everything is
stopped somewhere inside a call in front of it. -/

variable (C)

/-- `q` is among the calls of `p`. -/
def Makes (p q : π) : Prop := ∃ qs, C.sub p = some qs ∧ q ∈ qs

/-- Everything is stopped somewhere inside `p`. -/
def Stops (p : π) : Prop := ∃ q, ReflTransGen C.Makes p q ∧ C.sub q = none

/-- `p` calls `q`, and nothing is stopped inside the calls in front of it. -/
def Reaches (p q : π) : Prop :=
  ∃ front rest, C.sub p = some (front ++ q :: rest) ∧ ∀ r ∈ front, ¬ C.Stops r

variable {C}

lemma evalAll_eq_true {f : π → Option Bool} {qs : List π} (h : evalAll f qs = some true) :
    ∀ q ∈ qs, f q = some true := by
  induction qs with
  | nil => simp
  | cons q qs ih =>
    rw [evalAll] at h
    obtain ⟨done, hq, hrest⟩ := Option.bind_eq_some_iff.mp h
    cases done with
    | false => simp at hrest
    | true  => exact List.forall_mem_cons.mpr ⟨hq, ih hrest⟩

lemma Completes.makes {p q : π} (h : C.Completes p) (hmakes : C.Makes p q) : C.Completes q := by
  obtain ⟨qs, hsub, hq⟩ := hmakes
  obtain ⟨n, hn⟩ := h
  cases n with
  | zero => simp [eval] at hn
  | succ n =>
    rw [eval_of_sub hsub] at hn
    exact ⟨n, evalAll_eq_true hn q hq⟩

lemma Completes.not_stops {p : π} (h : C.Completes p) : ¬ C.Stops p := by
  rintro ⟨q, hreach, hstop⟩
  obtain ⟨n, hn⟩ : C.Completes q := by
    clear hstop
    induction hreach with
    | refl => exact h
    | tail _ hmakes ih => exact ih.makes hmakes
  cases n with
  | zero => simp [eval] at hn
  | succ n => simp [eval_of_stop hstop] at hn

lemma not_stops_of_makes {p q : π} (h : ¬ C.Stops p) (hmakes : C.Makes p q) : ¬ C.Stops q :=
  fun ⟨r, hreach, hstop⟩ => h ⟨r, .head hmakes hreach, hstop⟩

/-- An evaluation that ends is completed when nothing is stopped inside. -/
lemma eval_eq_true {n : Nat} {p : π} {b : Bool} (hstops : ¬ C.Stops p)
    (h : C.eval n p = some b) : b = true := by
  induction n generalizing p b with
  | zero => simp [eval] at h
  | succ n ih =>
    cases hsub : C.sub p with
    | none => exact absurd ⟨p, .refl, hsub⟩ hstops
    | some qs =>
      have hall : ∀ q ∈ qs, ¬ C.Stops q := fun q hq => not_stops_of_makes hstops ⟨qs, hsub, hq⟩
      rw [eval_of_sub hsub] at h
      clear hsub
      induction qs with
      | nil => exact (Option.some.inj h).symm
      | cons q qs ihqs =>
        obtain ⟨done, hq, hrest⟩ := Option.bind_eq_some_iff.mp h
        rw [ih (hall q List.mem_cons_self) hq, if_pos rfl] at hrest
        exact ihqs hrest fun r hr => hall r (List.mem_cons_of_mem _ hr)

lemma Visits.reaches {p q : π} (h : C.Visits p q) : C.Reaches p q := by
  obtain ⟨front, rest, hsub, hfront⟩ := h
  exact ⟨front, rest, hsub, fun r hr => (hfront r hr).not_stops⟩

lemma evalAll_completes {n : Nat} {front rest : List π} {b : Bool}
    (h : evalAll (C.eval n) (front ++ rest) = some b) (hfront : ∀ r ∈ front, ¬ C.Stops r) :
    ∀ r ∈ front, C.Completes r := by
  induction front with
  | nil => simp
  | cons r front ih =>
    obtain ⟨done, hr, hrest⟩ := Option.bind_eq_some_iff.mp h
    obtain rfl := eval_eq_true (hfront r List.mem_cons_self) hr
    rw [if_pos rfl] at hrest
    exact List.forall_mem_cons.mpr
      ⟨⟨n, hr⟩, ih hrest fun r' hr' => hfront r' (List.mem_cons_of_mem _ hr')⟩

lemma Ends.visits {p q : π} (h : C.Ends p) (hreaches : C.Reaches p q) : C.Visits p q := by
  obtain ⟨front, rest, hsub, hfront⟩ := hreaches
  obtain ⟨n, b, hn⟩ := h
  cases n with
  | zero => simp [eval] at hn
  | succ n =>
    rw [eval_of_sub hsub] at hn
    exact ⟨front, rest, hsub, evalAll_completes hn hfront⟩

lemma Ends.of_visited {p q : π} (h : C.Ends p) (hvisits : C.Visits p q) : C.Ends q := by
  obtain ⟨front, rest, hsub, hfront⟩ := hvisits
  obtain ⟨n, b, hn⟩ := h
  cases n with
  | zero => simp [eval] at hn
  | succ n =>
    rw [eval_of_sub hsub] at hn
    obtain ⟨b', hq⟩ := evalAll_reached hn hfront
    exact ⟨n, b', hq⟩

lemma Ends.visits_of_reaches {p q : π} (h : C.Ends p) (hreach : ReflTransGen C.Reaches p q) :
    C.Ends q ∧ ReflTransGen C.Visits p q := by
  induction hreach with
  | refl => exact ⟨h, .refl⟩
  | tail _ hreaches ih =>
    have hvisits := ih.1.visits hreaches
    exact ⟨ih.1.of_visited hvisits, ih.2.tail hvisits⟩

lemma Ends.transGen_visits {p q : π} (h : C.Ends p) (hreach : TransGen C.Reaches p q) :
    TransGen C.Visits p q := by
  obtain ⟨r, hreaches, hrest⟩ := TransGen.head'_iff.mp hreach
  have hvisits := h.visits hreaches
  exact .head' hvisits ((h.of_visited hvisits).visits_of_reaches hrest).2

/-- An evaluation ends if and only if no place that it reaches is reached from itself. -/
theorem ends_iff_reaches [Finite π] {p : π} :
    C.Ends p ↔ ∀ q, ReflTransGen C.Reaches p q → ¬ TransGen C.Reaches q q := by
  constructor
  · intro hends q hreach hcycle
    obtain ⟨hq, hvisited⟩ := hends.visits_of_reaches hreach
    exact ends_iff.mp hends q hvisited (hq.transGen_visits hcycle)
  · intro hacyclic
    refine ends_iff.mpr fun q hvisited hcycle => hacyclic q ?_ ?_
    · exact ReflTransGen.mono (fun _ _ hvisits => Visits.reaches hvisits) _ _ hvisited
    · exact TransGen.mono (fun _ _ hvisits => Visits.reaches hvisits) _ _ hcycle

end Calls

/-- When a rank grows along all steps but those from certain places, a cycle passes through one of
these. -/
lemma exists_of_cycle {π : Type*} {r : π → π → Prop} {Falls : π → Prop} (rank : π → Nat)
    (h : ∀ p q, r p q → ¬ Falls p → rank p < rank q) {p : π} (hcycle : TransGen r p p) :
    ∃ q, Falls q ∧ ReflTransGen r p q ∧ TransGen r q q := by
  by_contra hnone
  have hrises : ∀ q, ReflTransGen r p q → TransGen r q p → rank q < rank p := by
    intro q hto hback
    have hstays : ∀ x, ReflTransGen r p x → TransGen r x p → ¬ Falls x := fun x hpx hxp hfalls =>
      hnone ⟨x, hfalls, hpx, TransGen.trans_left hxp hpx⟩
    induction hback using TransGen.head_induction_on with
    | single hstep => exact h _ _ hstep (hstays _ hto (.single hstep))
    | head hstep hrest ih =>
      exact (h _ _ hstep (hstays _ hto (.head hstep hrest))).trans (ih (hto.tail hstep))
  exact Nat.lt_irrefl _ (hrises p .refl hcycle)

end Foundation
