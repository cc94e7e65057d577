import FlipperZero.Foundation.ShiftWindow
import Mathlib.Algebra.Ring.Nat

/-!
# Demodulation of frequency shift keying

`fsk_demod.c` measures the periods of a carrier, counts those of one length and reports, at a change
to the other length, a number of equal bits. The decoders of the FSK cards push these bits into a
window and test it after each of them.
-/

namespace FlipperZero

open Foundation

/-- A level and the time it has lasted. -/
abbrev LevelTime : Type := Bool × BitVec 32

structure FSKDemod where
  lowTime : BitVec 32
  lowPulses : BitVec 32
  hiTime : BitVec 32
  hiPulses : BitVec 32
  invert : Bool
  midTime : BitVec 32
  time : BitVec 32
  count : BitVec 32
  lastPulse : Bool
  deriving DecidableEq

def fskDemodAlloc (lowTime lowPulses hiTime hiPulses : BitVec 32) : FSKDemod :=
  let invert := decide (hiTime < lowTime)
  let (lowTime, hiTime) := if invert then (hiTime, lowTime) else (lowTime, hiTime)
  let (lowPulses, hiPulses) := if invert then (hiPulses, lowPulses) else (lowPulses, hiPulses)
  { lowTime, lowPulses, hiTime, hiPulses, invert
    midTime := (hiTime - lowTime) / 2 + lowTime
    time := 0
    count := 0
    lastPulse := false }

/-- `fsk_demod_feed`: the value, and how many bits of it have come in. Without bits the value is not
set. -/
def fskDemodFeed (demod : FSKDemod) (polarity : Bool) (time : BitVec 32) :
    (Bool × BitVec 32) × FSKDemod :=
  if polarity then ((false, 0), { demod with time := time })
  else
    let demod := { demod with time := demod.time + time }
    if demod.lowTime ≤ demod.time ∧ demod.time < demod.hiTime then
      let pulse := !decide (demod.time < demod.midTime)
      let demod := { demod with count := demod.count + 1 }
      if demod.lastPulse ≠ pulse then
        let dataCount := demod.count + 1
        let r :=
          if demod.lastPulse then (!demod.invert, dataCount / demod.hiPulses)
          else (demod.invert, dataCount / demod.lowPulses)
        (r, { demod with count := 0, lastPulse := pulse })
      else ((false, 0), demod)
    else ((false, 0), { demod with count := 0 })

/-- The bits that are demodulated, the last one first. -/
def fskDemodBits : FSKDemod → List Bool → List LevelTime → List Bool
  | _, bits, []                           => bits
  | demod, bits, (level, duration) :: rest =>
    let r := fskDemodFeed demod level duration
    fskDemodBits r.2 (List.replicate r.1.2.toNat r.1.1 ++ bits) rest

/-! ### Runs of a decoder -/

section
variable {σ : Type*} (feed : σ → LevelTime → Option (Bool × σ))

def feedAll : σ → List LevelTime → Option σ
  | s, []              => some s
  | s, pulse :: pulses => (feed s pulse).bind fun r => feedAll r.2 pulses

/-- Every feed of a run has a property of the decoder before it and the pulse. -/
def FeedAlways (P : σ → LevelTime → Prop) : σ → List LevelTime → Prop
  | _, []              => True
  | s, pulse :: pulses => P s pulse ∧ ∀ r, feed s pulse = some r → FeedAlways P r.2 pulses

variable {feed}

lemma feedAlways_congr {P Q : σ → LevelTime → Prop} (h : ∀ s pulse, P s pulse ↔ Q s pulse) (s : σ)
    (pulses : List LevelTime) : FeedAlways feed P s pulses ↔ FeedAlways feed Q s pulses := by
  induction pulses generalizing s with
  | nil => rfl
  | cons pulse pulses ih => exact and_congr (h s pulse) (forall₂_congr fun r _ => ih r.2)

lemma FeedAlways.last {P : σ → LevelTime → Prop} {s t : σ} {pulses : List LevelTime}
    {pulse : LevelTime} (h : FeedAlways feed P s (pulses ++ [pulse]))
    (hrun : feedAll feed s pulses = some t) : P t pulse := by
  induction pulses generalizing s with
  | nil =>
    obtain rfl : s = t := Option.some.inj hrun
    exact h.1
  | cons first pulses ih =>
    obtain ⟨r, hfeed, hrest⟩ := Option.bind_eq_some_iff.mp hrun
    exact ih (h.2 r hfeed) hrest

end

/-! ### A decoder with a window -/

/-- A demodulator with a window. -/
structure FskWindow (n : Nat) where
  demod : FSKDemod
  window : ShiftWindow n

namespace FskWindow

variable {n : Nat}

/-- A pulse is demodulated, and its bits come into the window. -/
def feed (T : WindowTest n) (stop : Bool) (s : FskWindow n) (pulse : LevelTime) :
    Bool × FskWindow n :=
  let r := fskDemodFeed s.demod pulse.1 pulse.2
  let pushed := s.window.pushes T stop r.1.1 r.1.2.toNat
  (pushed.1, ⟨r.2, pushed.2⟩)

def run (T : WindowTest n) (stop : Bool) (s : FskWindow n) (pulses : List LevelTime) : FskWindow n :=
  pulses.foldl (fun s pulse => (s.feed T stop pulse).2) s

variable (T : WindowTest n) (stop : Bool)

lemma exact_run {s : FskWindow n} (h : s.window.Exact) (pulses : List LevelTime) :
    (s.run T stop pulses).window.Exact := by
  induction pulses generalizing s with
  | nil => exact h
  | cons pulse pulses ih => exact ih (h.pushes T stop _ _)

lemma bits_run (s : FskWindow n) (pulses : List LevelTime) :
    (s.run T stop pulses).window.bits = fskDemodBits s.demod s.window.bits pulses := by
  induction pulses generalizing s with
  | nil => rfl
  | cons pulse pulses ih =>
    rw [run, List.foldl_cons, ← run, ih, fskDemodBits, feed, ShiftWindow.bits_pushes]

variable {T stop}

/-- A decoder whose feeds do what those of its window do is in step with it after any pulses. -/
lemma feedAll_run {σ : Type*} {feed : σ → LevelTime → Option (Bool × σ)}
    {R : σ → FskWindow n → Prop}
    (hfeed : ∀ p s pulse, R p s →
      ∃ p', feed p pulse = some ((s.feed T stop pulse).1, p') ∧ R p' (s.feed T stop pulse).2)
    {p : σ} {s : FskWindow n} (h : R p s) (pulses : List LevelTime) :
    ∃ p', feedAll feed p pulses = some p' ∧ R p' (s.run T stop pulses) := by
  induction pulses generalizing p s with
  | nil => exact ⟨p, rfl, h⟩
  | cons pulse pulses ih =>
    obtain ⟨p', hpulse, hshows⟩ := hfeed p s pulse h
    obtain ⟨p'', hrest, hshows'⟩ := ih hshows
    refine ⟨p'', ?_, hshows'⟩
    rw [feedAll, hpulse]
    exact hrest

end FskWindow

/-! ### A carrier -/

/-- How many periods a bit takes. -/
def fskPeriods (value : Bool) : Nat := if value then 5 else 6

def fskHalf (value : Bool) : BitVec 32 := if value then 40 else 32

/-- The pulses of a carrier for runs of equal bits. -/
def fskCarrier (runs : List (Bool × Nat)) : List LevelTime :=
  runs.flatMap fun run => (List.replicate (fskPeriods run.1 * run.2)
    [(true, fskHalf run.1), (false, fskHalf run.1)]).flatten

/-- The demodulator of the cards, after some periods of one length. -/
def fskTuned (last : Bool) (count time : BitVec 32) : FSKDemod :=
  { fskDemodAlloc 44 6 100 5 with time := time, count := count, lastPulse := last }

/-- How many bits the demodulator reports at a change. -/
def fskReported (last : Bool) (count : BitVec 32) : BitVec 32 :=
  (count + 1 + 1) / BitVec.ofNat 32 (fskPeriods last)

lemma fskDemodFeed_rise (last : Bool) (count time half : BitVec 32) :
    fskDemodFeed (fskTuned last count time) true half = ((false, 0), fskTuned last count half) := rfl

lemma fskDemodFeed_same (last : Bool) (count : BitVec 32) :
    fskDemodFeed (fskTuned last count (fskHalf last)) false (fskHalf last) =
      ((false, 0), fskTuned last (count + 1) (fskHalf last + fskHalf last)) := by
  cases last with
  | false => rfl
  | true => rfl

/-- At a period of the other length the bits of the run come in. -/
lemma fskDemodFeed_other (last : Bool) (count : BitVec 32) :
    fskDemodFeed (fskTuned last count (fskHalf !last)) false (fskHalf !last) =
      ((last, fskReported last count), fskTuned (!last) 0 (fskHalf (!last) + fskHalf !last)) := by
  cases last with
  | false => rfl
  | true => rfl

/-- The number of bits of a run, whose first period has been the change before it. -/
lemma fskReported_run (last : Bool) {m : Nat} (hpos : 0 < m) (hm : m < 2 ^ 29) :
    (fskReported last (0 + BitVec.ofNat 32 (fskPeriods last * m - 1))).toNat = m := by
  have hcount (k : Nat) (hk : k + 1 < 2 ^ 32) :
      ((0 : BitVec 32) + BitVec.ofNat 32 k + 1 + 1).toNat = (k + 2) % 2 ^ 32 := by
    simp [BitVec.toNat_add]
  cases last with
  | false =>
    have hdiv : (6 * m - 1 + 2) % 2 ^ 32 / 6 = m := by omega
    rw [fskReported, BitVec.toNat_udiv, hcount _ (by rw [fskPeriods, if_neg Bool.false_ne_true]; omega)]
    exact hdiv
  | true =>
    have hdiv : (5 * m - 1 + 2) % 2 ^ 32 / 5 = m := by omega
    rw [fskReported, BitVec.toNat_udiv, hcount _ (by rw [fskPeriods, if_pos rfl]; omega)]
    exact hdiv

/-- The window after the runs of a carrier; the bits of the last run wait for its end. -/
def carrierWindow {n : Nat} (T : WindowTest n) (stop : Bool) :
    ShiftWindow n → Bool × Nat → List (Bool × Nat) → ShiftWindow n × (Bool × Nat)
  | s, waiting, []          => (s, waiting)
  | s, waiting, run :: runs =>
    carrierWindow T stop (s.pushes T stop waiting.1 waiting.2).2 run runs

namespace FskWindow

variable {n : Nat} {T : WindowTest n} {stop : Bool}

lemma run_append (s : FskWindow n) (a b : List LevelTime) :
    s.run T stop (a ++ b) = (s.run T stop a).run T stop b :=
  List.foldl_append

variable (T stop)

lemma run_periods (last : Bool) (count time : BitVec 32) (window : ShiftWindow n) (k : Nat) :
    ∃ time', run T stop ⟨fskTuned last count time, window⟩
        (List.replicate k [(true, fskHalf last), (false, fskHalf last)]).flatten =
      ⟨fskTuned last (count + BitVec.ofNat 32 k) time', window⟩ := by
  induction k generalizing count time with
  | zero => exact ⟨time, by simp [run]⟩
  | succ k ih =>
    obtain ⟨time', hrest⟩ := ih (count + 1) (fskHalf last + fskHalf last)
    have hperiod : run T stop ⟨fskTuned last count time, window⟩
        [(true, fskHalf last), (false, fskHalf last)] =
          ⟨fskTuned last (count + 1) (fskHalf last + fskHalf last), window⟩ := by
      simp only [run, List.foldl_cons, List.foldl_nil, feed, fskDemodFeed_rise, fskDemodFeed_same]
      rfl
    have hcount : count + 1 + BitVec.ofNat 32 k = count + BitVec.ofNat 32 (k + 1) := by
      rw [Nat.add_comm k 1, BitVec.ofNat_add, BitVec.add_assoc]
      rfl
    rw [List.replicate_succ, List.flatten_cons, run_append, hperiod, hrest, hcount]
    exact ⟨time', rfl⟩

lemma run_change (last : Bool) (count time : BitVec 32) (window : ShiftWindow n) :
    run T stop ⟨fskTuned last count time, window⟩ [(true, fskHalf !last), (false, fskHalf !last)] =
      ⟨fskTuned (!last) 0 (fskHalf (!last) + fskHalf !last),
        (window.pushes T stop last (fskReported last count).toNat).2⟩ := by
  simp only [run, List.foldl_cons, List.foldl_nil, feed, fskDemodFeed_rise, fskDemodFeed_other]
  rfl

lemma run_fskCarrier {runs : List (Bool × Nat)} {last : Bool} {m : Nat} {count : BitVec 32}
    (time : BitVec 32) (window : ShiftWindow n) (hcount : (fskReported last count).toNat = m)
    (hruns : ∀ run ∈ runs, 0 < run.2 ∧ run.2 < 2 ^ 29)
    (hchange : List.IsChain (fun v v' => v' = !v) (last :: runs.map Prod.fst)) :
    ∃ count' time', run T stop ⟨fskTuned last count time, window⟩ (fskCarrier runs) =
        ⟨fskTuned (carrierWindow T stop window (last, m) runs).2.1 count' time',
          (carrierWindow T stop window (last, m) runs).1⟩ ∧
      (fskReported (carrierWindow T stop window (last, m) runs).2.1 count').toNat =
        (carrierWindow T stop window (last, m) runs).2.2 := by
  induction runs generalizing last m count time window with
  | nil => exact ⟨count, time, rfl, hcount⟩
  | cons first runs ih =>
    obtain ⟨value, k⟩ := first
    rw [List.map_cons, List.isChain_cons_cons] at hchange
    obtain ⟨rfl, hrest⟩ := hchange
    obtain ⟨hpos, hk⟩ := hruns _ List.mem_cons_self
    have hperiods : fskPeriods (!last) * k = fskPeriods (!last) * k - 1 + 1 := by
      have hpos' : 0 < fskPeriods (!last) * k := by
        apply Nat.mul_pos _ hpos
        cases last <;> decide
      omega
    obtain ⟨time', hperiod⟩ := run_periods T stop (!last) 0
      (fskHalf (!last) + fskHalf !last) (window.pushes T stop last m).2 (fskPeriods (!last) * k - 1)
    obtain ⟨count', time'', hrun, hreported⟩ := ih time' (window.pushes T stop last m).2
      (fskReported_run (!last) hpos hk)
      (fun run hrun => hruns run (List.mem_cons_of_mem _ hrun)) hrest
    refine ⟨count', time'', ?_, hreported⟩
    have hsplit : fskCarrier ((!last, k) :: runs) =
        [(true, fskHalf !last), (false, fskHalf !last)] ++
          ((List.replicate (fskPeriods (!last) * k - 1)
            [(true, fskHalf !last), (false, fskHalf !last)]).flatten ++ fskCarrier runs) := by
      rw [fskCarrier, List.flatMap_cons, ← fskCarrier]
      dsimp only
      rw [hperiods, List.replicate_succ, List.flatten_cons, List.append_assoc, Nat.add_sub_cancel]
    rw [hsplit, run_append, run_append, run_change, hcount, hperiod, hrun]
    rfl

lemma carrierWindow_waiting (window : ShiftWindow n) (waiting : Bool × Nat)
    (runs : List (Bool × Nat)) :
    (carrierWindow T stop window waiting runs).2 = runs.getLast?.getD waiting := by
  induction runs generalizing window waiting with
  | nil => rfl
  | cons run runs ih =>
    rw [carrierWindow, ih, List.getLast?_cons]
    rfl

lemma run_fskCarrier_rise {runs : List (Bool × Nat)} {value : Bool} {k : Nat}
    (window : ShiftWindow n) (hruns : ∀ run ∈ runs, 0 < run.2 ∧ run.2 < 2 ^ 29)
    (hchange : List.IsChain (fun v v' => v' = !v) (false :: runs.map Prod.fst))
    (hlast : runs.getLast? = some (value, k)) :
    ∃ count, run T stop ⟨fskTuned false 0 0, window⟩ (fskCarrier runs ++ [(true, fskHalf !value)]) =
        ⟨fskTuned value count (fskHalf !value), (carrierWindow T stop window (false, 0) runs).1⟩ ∧
      (fskReported value count).toNat = k := by
  have hwaiting : (carrierWindow T stop window (false, 0) runs).2 = (value, k) := by
    rw [carrierWindow_waiting, hlast]
    rfl
  obtain ⟨count, time, hrun, hreported⟩ :=
    run_fskCarrier T stop 0 window (by decide : (fskReported false 0).toNat = 0) hruns hchange
  rw [hwaiting] at hrun hreported
  refine ⟨count, ?_, hreported⟩
  rw [run_append, hrun]
  rfl

end FskWindow

end FlipperZero
