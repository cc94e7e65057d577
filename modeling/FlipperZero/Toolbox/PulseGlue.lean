import FlipperZero.Toolbox.ManchesterDecoder
import Mathlib.Algebra.Ring.Nat

/-!
# Gluing pulses

Pulses of one level that follow each other are put together. When the next high level comes after a
low one, the length of both and that of the high one are given out. If the halves of Manchester bits
are glued, a decoder is told of its runs.
-/

namespace FlipperZero

/-! ### The glue -/

structure PulseGlue where
  hiPeriod : BitVec 32
  lowPeriod : BitVec 32
  nextHiPeriod : BitVec 32
  deriving DecidableEq, Repr

def pulseGlueReset : PulseGlue where
  hiPeriod := 0
  lowPeriod := 0
  nextHiPeriod := 0

def pulseGluePush (glue : PulseGlue) (polarity : Bool) (length : BitVec 32) : Bool × PulseGlue :=
  if polarity then
    if glue.lowPeriod = 0 then (false, { glue with hiPeriod := glue.hiPeriod + length })
    else (true, { glue with nextHiPeriod := length })
  else if glue.hiPeriod ≠ 0 then (false, { glue with lowPeriod := glue.lowPeriod + length })
  else (false, glue)

/-- `pulse_glue_pop`: the length, the period and what is left. -/
def pulseGluePop (glue : PulseGlue) : BitVec 32 × BitVec 32 × PulseGlue :=
  (glue.hiPeriod + glue.lowPeriod, glue.hiPeriod,
    { hiPeriod := glue.nextHiPeriod, lowPeriod := 0, nextHiPeriod := 0 })

/-! ### Halves of bits -/

def halvesLength (half n : Nat) : BitVec 32 := BitVec.ofNat 32 (half * n)

variable {sent : Nat → Bool} {half e t : Nat} {glue : PulseGlue} {receiver : ManchesterReceiver}

lemma halvesLength_succ (half n : Nat) :
    halvesLength half n + halvesLength half 1 = halvesLength half (n + 1) := by
  rw [halvesLength, halvesLength, halvesLength, ← BitVec.ofNat_add, Nat.mul_add]

lemma toNat_halvesLength {n : Nat} (hlt : 2 * half < 2 ^ 32) (hn : n ≤ 2) :
    (halvesLength half n).toNat = half * n := by
  have hle : half * n ≤ half * 2 := Nat.mul_le_mul_left half hn
  rw [halvesLength, BitVec.toNat_ofNat, Nat.mod_eq_of_lt (by omega)]

lemma halvesLength_ne_zero {n : Nat} (hpos : 0 < half) (hlt : 2 * half < 2 ^ 32) (hn : n ≤ 2)
    (h : 0 < n) : halvesLength half n ≠ 0 := by
  intro hzero
  have hnat := toNat_halvesLength hlt hn
  rw [hzero] at hnat
  exact Nat.ne_of_gt (Nat.mul_pos hpos h) hnat.symm

lemma halves_pos (long : Bool) : 0 < halves long := by
  cases long <;> decide

lemma halves_le (long : Bool) : halves long ≤ 2 := by
  cases long <;> decide

lemma halfLevel_run {n : Nat} (hn : n < halves (runLong sent e)) :
    halfLevel sent (e + n) = halfLevel sent e := by
  cases n with
  | zero => rfl
  | succ n =>
    cases hlong : runLong sent e with
    | false =>
      rw [hlong] at hn
      exact absurd hn (Nat.not_lt.mpr (Nat.succ_le_succ (Nat.zero_le n)))
    | true =>
      rw [hlong] at hn
      have hone : n = 0 := Nat.lt_one_iff.mp (Nat.lt_of_succ_lt_succ hn)
      rw [hone]
      exact eq_of_beq hlong

lemma halfLevel_edge (sent : Nat → Bool) (e : Nat) :
    halfLevel sent (e + halves (runLong sent e)) = !halfLevel sent e := by
  cases hlong : runLong sent e with
  | false =>
    rw [runLong, beq_eq_false_iff_ne] at hlong
    exact Bool.eq_not.mpr hlong
  | true =>
    have hsame : halfLevel sent (e + 1) = halfLevel sent e := eq_of_beq hlong
    obtain ⟨i, rfl | rfl⟩ : ∃ i, e = 2 * i ∨ e = 2 * i + 1 := ⟨e / 2, by omega⟩
    · rw [runLong_even] at hlong
      exact Bool.noConfusion hlong
    · have hfirst : 2 * i + 1 + 1 = 2 * (i + 1) := by omega
      have hsecond : 2 * i + 1 + halves true = 2 * (i + 1) + 1 := rfl
      rw [← hsame, hfirst, hsecond, halfLevel_odd, halfLevel_even]

/-- Where a decoder stands at a rising edge: it has been started there or has been told of all
runs before. -/
def ManchesterReady (sent : Nat → Bool) (start e : Nat) (receiver : ManchesterReceiver) : Prop :=
  start = e / 2 ∧ receiver = ⟨manchesterResetState, []⟩ ∨ ManchesterPhase sent start e receiver

/-- The glue and a decoder while the halves of bits are glued. Low levels before the first high one
are left out. -/
inductive GlueReading (sent : Nat → Bool) (half begin : Nat) :
    Nat → PulseGlue → ManchesterReceiver → Prop
  | waiting (t : Nat) (low : ∀ j, begin ≤ j → j < t → halfLevel sent j = false) :
    GlueReading sent half begin t pulseGlueReset ⟨manchesterResetState, []⟩
  | high (e n start : Nat) (receiver : ManchesterReceiver) (edge : halfLevel sent e = true)
    (pos : 0 < n) (le : n ≤ halves (runLong sent e)) (near : start ≤ begin / 2 + 1)
    (ready : ManchesterReady sent start e receiver) :
    GlueReading sent half begin (e + n) ⟨halvesLength half n, 0, 0⟩ receiver
  | low (e f n start : Nat) (receiver : ManchesterReceiver) (edge : halfLevel sent e = true)
    (fall : f = e + halves (runLong sent e)) (pos : 0 < n) (le : n ≤ halves (runLong sent f))
    (near : start ≤ begin / 2 + 1) (ready : ManchesterReady sent start e receiver) :
    GlueReading sent half begin (f + n)
      ⟨halvesLength half (halves (runLong sent e)), halvesLength half n, 0⟩ receiver

/-- The decoder has been told of the high run and of the low one behind it. -/
lemma ManchesterReady.run {start : Nat} (h : ManchesterReady sent start e receiver)
    (hedge : halfLevel sent e = true) :
    ManchesterPhase sent start (e + halves (runLong sent e)) (receiver.run true (runLong sent e)) := by
  rcases h with ⟨rfl, rfl⟩ | hphase
  · exact ManchesterPhase.first hedge
  · have hrun := hphase.run
    rw [hedge] at hrun
    exact hrun

lemma halfLevel_three (sent : Nat → Bool) (t : Nat) (hfirst : halfLevel sent t = false)
    (hsecond : halfLevel sent (t + 1) = false) : halfLevel sent (t + 2) = true := by
  have hlong : runLong sent t = true := by
    rw [runLong, hfirst, hsecond]
    rfl
  have hedge := halfLevel_edge sent t
  rw [hlong, hfirst] at hedge
  exact hedge

/-- One half is pushed. Either nothing is popped, or the decoder is told of a high and a low run. -/
theorem GlueReading.push {begin : Nat} (h : GlueReading sent half begin t glue receiver)
    (hpos : 0 < half) (hlt : 2 * half < 2 ^ 32) :
    ((pulseGluePush glue (halfLevel sent t) (halvesLength half 1)).1 = false ∧
      GlueReading sent half begin (t + 1)
        (pulseGluePush glue (halfLevel sent t) (halvesLength half 1)).2 receiver) ∨
    ∃ first second length period left,
      (pulseGluePush glue (halfLevel sent t) (halvesLength half 1)).1 = true ∧
      pulseGluePop (pulseGluePush glue (halfLevel sent t) (halvesLength half 1)).2 =
        (length, period, left) ∧
      period = halvesLength half (halves first) ∧
      length - period = halvesLength half (halves second) ∧
      GlueReading sent half begin (t + 1) left ((receiver.run true first).run false second) := by
  cases h with
  | waiting _ low =>
    left
    cases hlevel : halfLevel sent t with
    | false =>
      refine ⟨rfl, .waiting (t + 1) fun j hbegin hj => ?_⟩
      rcases Nat.lt_succ_iff_lt_or_eq.mp hj with hbefore | rfl
      · exact low j hbegin hbefore
      · exact hlevel
    | true =>
      have hnear : t ≤ begin + 2 := by
        by_contra hfar
        have hthird := halfLevel_three sent begin (low begin (Nat.le_refl _) (by omega))
          (low (begin + 1) (by omega) (by omega))
        rw [low (begin + 2) (by omega) (by omega)] at hthird
        exact Bool.noConfusion hthird
      have hglue : pulseGluePush pulseGlueReset true (halvesLength half 1) =
          (false, ⟨halvesLength half 1, 0, 0⟩) := by
        rw [pulseGluePush, if_pos rfl]
        simp [pulseGlueReset]
      rw [hglue]
      exact ⟨rfl, .high t 1 (t / 2) _ hlevel Nat.one_pos (halves_pos _) (by omega) (Or.inl ⟨rfl, rfl⟩)⟩
  | high e n start receiver edge pos le near ready =>
    left
    have hn : n ≤ 2 := Nat.le_trans le (halves_le _)
    rcases Nat.lt_or_eq_of_le le with hinside | rfl
    · have hlevel : halfLevel sent (e + n) = true := (halfLevel_run hinside).trans edge
      rw [hlevel, pulseGluePush, if_pos rfl, if_pos rfl, halvesLength_succ]
      exact ⟨rfl, .high e (n + 1) start receiver edge (Nat.succ_pos n) hinside near ready⟩
    · have hlevel : halfLevel sent (e + halves (runLong sent e)) = false := by
        rw [halfLevel_edge, edge]
        rfl
      have hzero : 0 + halvesLength half 1 = halvesLength half 1 := BitVec.zero_add _
      rw [hlevel, pulseGluePush, if_neg Bool.false_ne_true,
        if_pos (halvesLength_ne_zero hpos hlt hn pos)]
      dsimp only
      rw [hzero]
      exact ⟨rfl, .low e _ 1 start receiver edge rfl Nat.one_pos (halves_pos _) near ready⟩
  | low e f n start receiver edge fall pos le near ready =>
    have hn : n ≤ 2 := Nat.le_trans le (halves_le _)
    have hfall : halfLevel sent f = false := by
      rw [fall, halfLevel_edge, edge]
      rfl
    rcases Nat.lt_or_eq_of_le le with hinside | rfl
    · left
      have hlevel : halfLevel sent (f + n) = false := (halfLevel_run hinside).trans hfall
      rw [hlevel, pulseGluePush, if_neg Bool.false_ne_true,
        if_pos (halvesLength_ne_zero hpos hlt (halves_le _) (halves_pos _)), halvesLength_succ]
      exact ⟨rfl, .low e f (n + 1) start receiver edge fall (Nat.succ_pos n) hinside near ready⟩
    · right
      have hlevel : halfLevel sent (f + halves (runLong sent f)) = true := by
        rw [halfLevel_edge, hfall]
        rfl
      have hphase := (ready.run edge).run
      rw [← fall, hfall] at hphase
      rw [hlevel, pulseGluePush, if_pos rfl, if_neg (halvesLength_ne_zero hpos hlt hn pos)]
      exact ⟨runLong sent e, runLong sent f, _, _, _, rfl, rfl, rfl, by rw [BitVec.add_comm, BitVec.add_sub_cancel],
        .high _ 1 start _ hlevel Nat.one_pos (halves_pos _) near (Or.inr hphase)⟩

lemma GlueReading.given {begin : Nat} (h : GlueReading sent half begin t glue receiver) :
    receiver.bits = [] ∨ ∃ start p q g, p < q ∧ Garbled sent start p g ∧
      ∀ k, receiver.bits.getD k false = receivedBit sent p q g k := by
  have hready {start e : Nat} {receiver : ManchesterReceiver}
      (h : ManchesterReady sent start e receiver) :
      receiver.bits = [] ∨ ∃ start p q g, p < q ∧ Garbled sent start p g ∧
        ∀ k, receiver.bits.getD k false = receivedBit sent p q g k := by
    rcases h with ⟨-, rfl⟩ | hphase
    · exact Or.inl rfl
    · exact Or.inr ⟨start, hphase.given⟩
  cases h with
  | waiting _ low => exact Or.inl rfl
  | high e n start receiver edge pos le near ready => exact hready ready
  | low e f n start receiver edge fall pos le near ready => exact hready ready

/-- Where a one is sent from time to time, the decoder is soon in step. -/
lemma GlueReading.locked {begin period : Nat} (h : GlueReading sent half begin t glue receiver)
    (hone : ∀ j, ∃ k < period, sent (j + k) = true) (hlate : begin + 2 * period + 8 ≤ t) :
    ∃ start p q g, p ≤ begin / 2 + period ∧ t ≤ 2 * q + 5 ∧ p < q ∧ Garbled sent start p g ∧
      ∀ k, receiver.bits.getD k false = receivedBit sent p q g k := by
  have hready {start e : Nat} {receiver : ManchesterReceiver} (hnear : start ≤ begin / 2 + 1)
      (ht : t ≤ e + 4) (h : ManchesterReady sent start e receiver) :
      ∃ start p q g, p ≤ begin / 2 + period ∧ t ≤ 2 * q + 5 ∧ p < q ∧ Garbled sent start p g ∧
        ∀ k, receiver.bits.getD k false = receivedBit sent p q g k := by
    rcases h with ⟨hstart, -⟩ | hphase
    · omega
    · obtain ⟨p, q, g, hp, hq, hpq, hgarbled, hgiven⟩ := hphase.locked hone (by omega)
      exact ⟨start, p, q, g, by omega, by omega, hpq, hgarbled, hgiven⟩
  cases h with
  | waiting _ low =>
    have hthird := halfLevel_three sent begin (low begin (Nat.le_refl _) (by omega))
      (low (begin + 1) (by omega) (by omega))
    rw [low (begin + 2) (by omega) (by omega)] at hthird
    exact Bool.noConfusion hthird
  | high e n start receiver edge pos le near ready =>
    exact hready near (Nat.add_le_add_left (Nat.le_trans le (by
      have hle := halves_le (runLong sent e)
      omega)) e) ready
  | low e f n start receiver edge fall pos le near ready =>
    have hfirst := halves_le (runLong sent e)
    have hsecond := halves_le (runLong sent f)
    exact hready near (by omega) ready

end FlipperZero
