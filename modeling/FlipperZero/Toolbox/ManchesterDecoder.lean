import Mathlib.Tactic.Common

/-!
# The Manchester decoder

A bit is sent as two halves of which the first has its level. The decoder is told of each run of one
level whether it is one or two halves long. It starts as if it stood in the middle of a one, so that
it may take the edges between bits for those in their middles; it then reads zeros as ones. The first
high run of two halves puts that right.
-/

namespace FlipperZero

/-! ### The decoder -/

inductive ManchesterState
  | start1
  | mid1
  | mid0
  | start0
  deriving DecidableEq, Repr

inductive ManchesterEvent
  | shortLow
  | shortHigh
  | longLow
  | longHigh
  | reset
  deriving DecidableEq, Repr

def ManchesterState.number : ManchesterState → Nat
  | start1 => 0
  | mid1   => 1
  | mid0   => 2
  | start0 => 3

def ManchesterState.ofNumber : Nat → ManchesterState
  | 0 => start1
  | 1 => mid1
  | 2 => mid0
  | _ => start0

def ManchesterEvent.number : ManchesterEvent → Nat
  | shortLow  => 0
  | shortHigh => 2
  | longLow   => 4
  | longHigh  => 6
  | reset     => 8

/-- `transitions`. -/
def manchesterTransitions : List Nat := [0b00000001, 0b10010001, 0b10011011, 0b11111011]

def manchesterResetState : ManchesterState := .mid1

/-- `manchester_advance`: the next state, and the bit if one is complete. -/
def manchesterAdvance (state : ManchesterState) (event : ManchesterEvent) :
    ManchesterState × Option Bool :=
  if event = .reset then (manchesterResetState, none)
  else
    let newState := ManchesterState.ofNumber
      ((manchesterTransitions.getD state.number 0 >>> event.number) &&& 0x3)
    if newState = state then (manchesterResetState, none)
    else if newState = .mid0 then (newState, some false)
    else if newState = .mid1 then (newState, some true)
    else (newState, none)

lemma manchesterAdvance_reset (state : ManchesterState) :
    manchesterAdvance state .reset = (manchesterResetState, none) := if_pos rfl

/-! ### Runs of one level -/

def halfLevel (sent : Nat → Bool) (t : Nat) : Bool := sent (t / 2) ^^ decide (t % 2 = 1)

/-- The event of a run. Low levels are counted as high ones. -/
def manchesterEvent (level long : Bool) : ManchesterEvent :=
  match level, long with
  | false, false => .shortHigh
  | true, false  => .shortLow
  | false, true  => .longHigh
  | true, true   => .longLow

/-- A decoder with the bits that it has given, the last one first. -/
structure ManchesterReceiver where
  state : ManchesterState
  bits : List Bool

/-- A decoder that is told of a run. -/
def ManchesterReceiver.run (receiver : ManchesterReceiver) (level long : Bool) : ManchesterReceiver :=
  let r := manchesterAdvance receiver.state (manchesterEvent level long)
  ⟨r.1, r.2.toList ++ receiver.bits⟩

/-- What the decoder does at the end of a run. -/
def manchesterStep : ManchesterState → Bool → Bool → ManchesterState × Option Bool
  | .start1, true, false  => (.mid1, some true)
  | .start0, false, false => (.mid0, some false)
  | .mid1, false, false   => (.start1, none)
  | .mid0, true, false    => (.start0, none)
  | .mid1, false, true    => (.mid0, some false)
  | .mid0, true, true     => (.mid1, some true)
  | _, _, _               => (.mid1, none)

lemma manchesterAdvance_event (state : ManchesterState) (level long : Bool) :
    manchesterAdvance state (manchesterEvent level long) = manchesterStep state level long := by
  cases state <;> cases level <;> cases long <;> decide

lemma ManchesterReceiver.run_eq (state : ManchesterState) (bits : List Bool) (level long : Bool) :
    ManchesterReceiver.run ⟨state, bits⟩ level long =
      ⟨(manchesterStep state level long).1, (manchesterStep state level long).2.toList ++ bits⟩ := by
  rw [ManchesterReceiver.run, manchesterAdvance_event]

variable {sent : Nat → Bool} {e : Nat} {receiver : ManchesterReceiver}

lemma halfLevel_even (sent : Nat → Bool) (i : Nat) : halfLevel sent (2 * i) = sent i := by
  have hdiv : 2 * i / 2 = i := by omega
  rw [halfLevel, hdiv, decide_eq_false (by omega), Bool.xor_false]

lemma halfLevel_odd (sent : Nat → Bool) (i : Nat) : halfLevel sent (2 * i + 1) = !sent i := by
  have hdiv : (2 * i + 1) / 2 = i := by omega
  rw [halfLevel, hdiv, decide_eq_true (by omega), Bool.xor_true]

/-- Whether the run that starts with a half is two halves long. There are no longer ones. -/
def runLong (sent : Nat → Bool) (e : Nat) : Bool :=
  halfLevel sent (e + 1) == halfLevel sent e

/-- The number of halves of a run. -/
def halves (long : Bool) : Nat := if long then 2 else 1

lemma runLong_even (sent : Nat → Bool) (i : Nat) : runLong sent (2 * i) = false := by
  rw [runLong, halfLevel_odd, halfLevel_even]
  cases sent i <;> rfl

lemma runLong_odd (sent : Nat → Bool) (i : Nat) :
    runLong sent (2 * i + 1) = (sent (i + 1) == !sent i) := by
  have hnext : 2 * i + 1 + 1 = 2 * (i + 1) := by omega
  rw [runLong, hnext, halfLevel_even, halfLevel_odd]

/-- The bits that a decoder has given by the time that the bits before `q` have been sent: `g` ones
that stand for zeros, and what was sent behind the bit `p`. -/
def receivedBit (sent : Nat → Bool) (p q g i : Nat) : Bool :=
  if i + p + 1 < q then sent (q - 1 - i) else decide (i + p + 1 < q + g)

/-- From the bit at which the decoder was started, all bits before `p` are zeros. There are enough
for those that were taken for ones. -/
structure Garbled (sent : Nat → Bool) (start p g : Nat) : Prop where
  count : start + g ≤ p
  zero : ∀ j, start ≤ j → j < p → sent j = false

/-- Where a decoder stands at an edge: before or in the middle of a zero that it takes for an edge
of ones, between two bits that are the same, or in the middle of a bit. -/
inductive ManchesterPhase (sent : Nat → Bool) (start : Nat) : Nat → ManchesterReceiver → Prop
  | garbledLow (i g : Nat) (bits : List Bool) (given : ∀ k, bits.getD k false = decide (k < g))
    (garbled : Garbled sent start (i + 1) g) (before : start ≤ i) :
    ManchesterPhase sent start (2 * i) ⟨.mid1, bits⟩
  | garbledHigh (i g : Nat) (bits : List Bool) (given : ∀ k, bits.getD k false = decide (k < g))
    (garbled : Garbled sent start (i + 1) g) (before : start ≤ i) :
    ManchesterPhase sent start (2 * i + 1) ⟨.start1, bits⟩
  | between (i p g : Nat) (bits : List Bool) (before : p < i)
    (given : ∀ k, bits.getD k false = receivedBit sent p i g k) (garbled : Garbled sent start p g) :
    ManchesterPhase sent start (2 * i) ⟨if sent i then .start1 else .start0, bits⟩
  | middle (i p g : Nat) (bits : List Bool) (before : p ≤ i)
    (given : ∀ k, bits.getD k false = receivedBit sent p (i + 1) g k)
    (garbled : Garbled sent start p g) :
    ManchesterPhase sent start (2 * i + 1) ⟨if sent i then .mid1 else .mid0, bits⟩

lemma receivedBit_next {p q g : Nat} (h : p < q) :
    receivedBit sent p (q + 1) g 0 = sent q ∧
      ∀ i, receivedBit sent p (q + 1) g (i + 1) = receivedBit sent p q g i := by
  refine ⟨if_pos (by omega), fun i => ?_⟩
  have hindex : q + 1 - 1 - (i + 1) = q - 1 - i := by omega
  have hlow : (i + 1 + p + 1 < q + 1) = (i + p + 1 < q) := propext (by omega)
  have hhigh : (i + 1 + p + 1 < q + 1 + g) = (i + p + 1 < q + g) := propext (by omega)
  simp only [receivedBit, hindex, hlow, hhigh]

lemma receivedBit_start (sent : Nat → Bool) (p g i : Nat) :
    receivedBit sent p (p + 1) g i = decide (i < g) := by
  rw [receivedBit, if_neg (by omega), decide_eq_decide]
  omega

lemma given_next {p q g : Nat} {bits : List Bool} (h : p < q)
    (hbits : ∀ k, bits.getD k false = receivedBit sent p q g k) (k : Nat) :
    (sent q :: bits).getD k false = receivedBit sent p (q + 1) g k := by
  cases k with
  | zero => rw [(receivedBit_next h).1, List.getD_cons_zero]
  | succ k => rw [(receivedBit_next h).2, List.getD_cons_succ, hbits]

lemma Garbled.succ {start p g : Nat} (h : Garbled sent start p g) (hzero : sent p = false) :
    Garbled sent start (p + 1) (g + 1) := by
  refine ⟨Nat.succ_le_succ h.count, fun j hstart hj => ?_⟩
  rcases Nat.lt_succ_iff_lt_or_eq.mp hj with hlt | rfl
  · exact h.zero j hstart hlt
  · exact hzero

lemma Garbled.mono {start p g g' : Nat} (h : Garbled sent start p g) (hle : g' ≤ g) :
    Garbled sent start p g' :=
  ⟨Nat.le_trans (Nat.add_le_add_left hle start) h.count, h.zero⟩

lemma garbled_refl (sent : Nat → Bool) (start : Nat) : Garbled sent start start 0 :=
  ⟨Nat.le_refl start, fun _ hstart hj => absurd hj (Nat.not_lt.mpr hstart)⟩

lemma ManchesterPhase.first {t : Nat} (hhigh : halfLevel sent t = true) :
    ManchesterPhase sent (t / 2) (t + halves (runLong sent t))
      (ManchesterReceiver.run ⟨manchesterResetState, []⟩ true (runLong sent t)) := by
  obtain ⟨i, rfl | rfl⟩ : ∃ i, t = 2 * i ∨ t = 2 * i + 1 := ⟨t / 2, by omega⟩
  · have hstart : 2 * i / 2 = i := by omega
    rw [halfLevel_even] at hhigh
    rw [runLong_even, hstart]
    have hphase := ManchesterPhase.middle i i 0 [] (Nat.le_refl i)
      (fun k => by simp [receivedBit_start]) (garbled_refl sent i)
    rw [if_pos hhigh] at hphase
    exact hphase
  · have hstart : (2 * i + 1) / 2 = i := by omega
    rw [halfLevel_odd, Bool.not_eq_true'] at hhigh
    rw [runLong_odd, hhigh, hstart]
    have hgarbled : Garbled sent i (i + 1) 0 := ((garbled_refl sent i).succ hhigh).mono (Nat.zero_le 1)
    cases hnext : sent (i + 1) with
    | false =>
      exact .garbledLow (i + 1) 0 [] (fun k => by simp) ((hgarbled.succ hnext).mono (Nat.zero_le 1))
        (Nat.le_succ i)
    | true =>
      have hphase := ManchesterPhase.middle (i + 1) (i + 1) 0 [] (Nat.le_refl _)
        (fun k => by simp [receivedBit_start]) hgarbled
      rw [if_pos hnext] at hphase
      exact hphase

/-- A decoder that is told of the run behind an edge stands at the next one. -/
theorem ManchesterPhase.run {start : Nat} (h : ManchesterPhase sent start e receiver) :
    ManchesterPhase sent start (e + halves (runLong sent e))
      (receiver.run (halfLevel sent e) (runLong sent e)) := by
  cases h with
  | garbledLow i g bits given garbled before =>
    have hzero := garbled.zero i before (Nat.lt_succ_self i)
    rw [runLong_even, halfLevel_even, hzero, ManchesterReceiver.run_eq]
    exact .garbledHigh i g bits given garbled before
  | garbledHigh i g bits given garbled before =>
    have hzero := garbled.zero i before (Nat.lt_succ_self i)
    rw [runLong_odd, halfLevel_odd, hzero, ManchesterReceiver.run_eq]
    cases hnext : sent (i + 1) with
    | false =>
      -- one more zero is taken for a one
      refine .garbledLow (i + 1) (g + 1) (true :: bits) (fun k => ?_) (garbled.succ hnext)
        (Nat.le_succ_of_le before)
      cases k with
      | zero => simp
      | succ k =>
        rw [List.getD_cons_succ, given, decide_eq_decide]
        omega
    | true =>
      have hphase := ManchesterPhase.middle (i + 1) (i + 1) g bits (Nat.le_refl _)
        (fun k => by rw [receivedBit_start, given]) garbled
      rw [if_pos hnext] at hphase
      exact hphase
  | between i p g bits before given garbled =>
    rw [runLong_even, halfLevel_even, ManchesterReceiver.run_eq]
    have hphase := ManchesterPhase.middle i p g (sent i :: bits) (Nat.le_of_lt before)
      (given_next before given) garbled
    cases hbit : sent i with
    | false =>
      rw [hbit] at hphase
      exact hphase
    | true =>
      rw [hbit] at hphase
      exact hphase
  | middle i p g bits before given garbled =>
    rw [runLong_odd, halfLevel_odd, ManchesterReceiver.run_eq]
    by_cases hsame : sent (i + 1) = sent i
    · have hphase := ManchesterPhase.between (i + 1) p g bits (Nat.lt_succ_of_le before) given garbled
      rw [hsame] at hphase ⊢
      cases hbit : sent i with
      | false =>
        rw [hbit] at hphase
        exact hphase
      | true =>
        rw [hbit] at hphase
        exact hphase
    · have hphase := ManchesterPhase.middle (i + 1) p g (sent (i + 1) :: bits) (Nat.le_succ_of_le before)
        (given_next (Nat.lt_succ_of_le before) given) garbled
      have hnext : sent (i + 1) = !sent i := Bool.eq_not.mpr hsame
      rw [hnext] at hphase ⊢
      cases hbit : sent i with
      | false =>
        rw [hbit] at hphase
        exact hphase
      | true =>
        rw [hbit] at hphase
        exact hphase

/-- What had been given some bits before was the same with less of the bits that were sent, or less of
the ones. -/
lemma receivedBit_drop (sent : Nat → Bool) (p q g k : Nat) :
    ∃ q' g', p < q' ∧ g' ≤ g ∧
      ∀ i, receivedBit sent p q g (k + i) = receivedBit sent p q' g' i := by
  by_cases hle : k + p + 1 ≤ q
  · refine ⟨q - k, g, by omega, Nat.le_refl g, fun i => ?_⟩
    have hindex : q - 1 - (k + i) = q - k - 1 - i := by omega
    have hlow : (k + i + p + 1 < q) = (i + p + 1 < q - k) := propext (by omega)
    have hhigh : (k + i + p + 1 < q + g) = (i + p + 1 < q - k + g) := propext (by omega)
    simp only [receivedBit, hindex, hlow, hhigh]
  · refine ⟨p + 1, q + g - p - 1 - k, Nat.lt_succ_self p, by omega, fun i => ?_⟩
    rw [receivedBit_start, receivedBit, if_neg (by omega), decide_eq_decide]
    omega

lemma ManchesterPhase.given {start : Nat} (h : ManchesterPhase sent start e receiver) :
    ∃ p q g, p < q ∧ Garbled sent start p g ∧
      ∀ k, receiver.bits.getD k false = receivedBit sent p q g k := by
  cases h with
  | garbledLow i g bits given garbled before =>
    exact ⟨i + 1, i + 2, g, Nat.lt_succ_self _, garbled,
      fun k => (given k).trans (receivedBit_start sent (i + 1) g k).symm⟩
  | garbledHigh i g bits given garbled before =>
    exact ⟨i + 1, i + 2, g, Nat.lt_succ_self _, garbled,
      fun k => (given k).trans (receivedBit_start sent (i + 1) g k).symm⟩
  | between i p g bits before given garbled => exact ⟨p, i, g, before, garbled, given⟩
  | middle i p g bits before given garbled =>
    exact ⟨p, i + 1, g, Nat.lt_succ_of_le before, garbled, given⟩

/-- Where a one is sent from time to time, a decoder is soon in step. -/
lemma ManchesterPhase.locked {start period : Nat} (h : ManchesterPhase sent start e receiver)
    (hone : ∀ j, ∃ k < period, sent (j + k) = true) (hlate : 2 * (start + period) ≤ e) :
    ∃ p q g, p < start + period ∧ e / 2 ≤ q ∧ p < q ∧ Garbled sent start p g ∧
      ∀ k, receiver.bits.getD k false = receivedBit sent p q g k := by
  obtain ⟨k, hk, hset⟩ := hone start
  have hbefore {p g : Nat} (hgarbled : Garbled sent start p g) : p < start + period := by
    by_contra hle
    have hzero := hgarbled.zero (start + k) (Nat.le_add_right start k) (by omega)
    rw [hset] at hzero
    exact Bool.noConfusion hzero
  cases h with
  | garbledLow i g bits given garbled before => exact absurd (hbefore garbled) (by omega)
  | garbledHigh i g bits given garbled before => exact absurd (hbefore garbled) (by omega)
  | between i p g bits before given garbled =>
    exact ⟨p, i, g, hbefore garbled, by omega, before, garbled, given⟩
  | middle i p g bits before given garbled =>
    exact ⟨p, i + 1, g, hbefore garbled, by omega, Nat.lt_succ_of_le before, garbled, given⟩

end FlipperZero
