import FlipperZero.Foundation.LevelRuns
import Mathlib.Algebra.Ring.Nat

/-!
# The receiving worker

`subghz_worker.c`: the thread takes levels with their durations from the stream and puts together
what belongs to one level. A pulse shorter than the filter is counted to the level before it. When
the level changes the pair that came to its end goes to the decoders.
-/

namespace FlipperZero

open Foundation

/-- `level_duration_make`: the duration has 30 bits. -/
def levelDurationMake (level : Bool) (duration : BitVec 32) : Bool × BitVec 30 :=
  (level, duration.setWidth 30)

/-- `SubGhzWorker`: `filter_level_duration` and `filter_duration`. -/
structure SubGhzWorker where
  level : Bool
  duration : BitVec 30
  filterDuration : BitVec 16
  deriving DecidableEq, Repr

def subghzWorkerAlloc : SubGhzWorker := ⟨false, 0, 30⟩

namespace SubGhzWorker

/-- The part of `subghz_worker_thread_callback` for a level that was received: the pair for
`pair_callback`, and the worker. -/
def receive (w : SubGhzWorker) (level : Bool) (duration : BitVec 30) :
    Option (Bool × BitVec 30) × SubGhzWorker :=
  if duration.toNat < w.filterDuration.toNat ∨ w.level = level then
    (none, { w with duration := w.duration + duration })
  else (some (w.level, w.duration), { w with level, duration })

/-- The events between two overruns: what `subghz_worker_rx_callback` is called with goes through
the stream to the thread. -/
def run (w : SubGhzWorker) : List (Bool × BitVec 32) → List (Bool × BitVec 30) × SubGhzWorker
  | []              => ([], w)
  | (l, d) :: events =>
    let received := levelDurationMake l d
    let r := w.receive received.1 received.2
    let rest := r.2.run events
    (r.1.toList ++ rest.1, rest.2)

/-- The pairs that were passed on, and the pending one behind them. -/
def passed (r : List (Bool × BitVec 30) × SubGhzWorker) : List (Bool × Nat) :=
  (r.1 ++ [(r.2.level, r.2.duration)]).map fun p => (p.1, p.2.toNat)

/-- The runs of the events, behind the level that is pending. -/
def runs (w : SubGhzWorker) (events : List (Bool × BitVec 32)) : List (Bool × Nat) :=
  runsFrom w.filterDuration.toNat w.level w.duration.toNat (events.map fun e => (e.1, e.2.toNat))

variable {w : SubGhzWorker} {events : List (Bool × BitVec 32)}

lemma run_glued {l : Bool} {d : BitVec 32}
    (h : (d.setWidth 30).toNat < w.filterDuration.toNat ∨ w.level = l) :
    w.run ((l, d) :: events) = { w with duration := w.duration + d.setWidth 30 }.run events := by
  rw [run, receive, levelDurationMake, if_pos h]
  rfl

lemma run_passed {l : Bool} {d : BitVec 32}
    (h : ¬((d.setWidth 30).toNat < w.filterDuration.toNat ∨ w.level = l)) :
    passed (w.run ((l, d) :: events)) = (w.level, w.duration.toNat) ::
      passed ({ w with level := l, duration := d.setWidth 30 }.run events) := by
  rw [run, receive, levelDurationMake, if_neg h]
  rfl

lemma passed_run (w : SubGhzWorker) (events : List (Bool × BitVec 32))
    (h : ∀ r ∈ w.runs events, r.2 < 2 ^ 30) : passed (w.run events) = w.runs events := by
  induction events generalizing w with
  | nil => rfl
  | cons e events ih =>
    obtain ⟨l, d⟩ := e
    by_cases hglue : d.toNat < w.filterDuration.toNat ∨ w.level = l
    · -- the sum of the run is below the limit, and so is what was added to it
      have hruns : w.runs ((l, d) :: events) = runsFrom w.filterDuration.toNat w.level
          (w.duration.toNat + d.toNat) (events.map fun e => (e.1, e.2.toNat)) := if_pos hglue
      obtain ⟨n, rest, hfirst, hle⟩ := exists_runsFrom_eq_cons w.filterDuration.toNat w.level
        (w.duration.toNat + d.toNat) (events.map fun e => (e.1, e.2.toNat))
      rw [hruns] at h
      have hlt : n < 2 ^ 30 := h (w.level, n) (by rw [hfirst]; exact List.mem_cons_self)
      have hduration : (d.setWidth 30).toNat = d.toNat := by
        rw [BitVec.toNat_setWidth, Nat.mod_eq_of_lt (by omega)]
      have hsum : (w.duration + d.setWidth 30).toNat = w.duration.toNat + d.toNat := by
        rw [BitVec.toNat_add, hduration, Nat.mod_eq_of_lt (by omega)]
      have hnext : { w with duration := w.duration + d.setWidth 30 }.runs events =
          w.runs ((l, d) :: events) := by
        rw [hruns, runs, hsum]
      rw [run_glued (by rwa [hduration]), ih _ (by rw [hnext, hruns]; exact h), hnext]
    · have hruns : w.runs ((l, d) :: events) = (w.level, w.duration.toNat) ::
          runsFrom w.filterDuration.toNat l d.toNat (events.map fun e => (e.1, e.2.toNat)) :=
        if_neg hglue
      obtain ⟨n, rest, hfirst, hle⟩ := exists_runsFrom_eq_cons w.filterDuration.toNat l d.toNat
        (events.map fun e => (e.1, e.2.toNat))
      rw [hruns] at h
      have hlt : n < 2 ^ 30 :=
        h (l, n) (by rw [hfirst]; exact List.mem_cons_of_mem _ List.mem_cons_self)
      have hduration : (d.setWidth 30).toNat = d.toNat := by
        rw [BitVec.toNat_setWidth, Nat.mod_eq_of_lt (by omega)]
      have hnext : { w with level := l, duration := d.setWidth 30 }.runs events =
          runsFrom w.filterDuration.toNat l d.toNat (events.map fun e => (e.1, e.2.toNat)) := by
        rw [runs, hduration]
      rw [run_passed (by rwa [hduration]), ih _ fun r hr => h r (List.mem_cons_of_mem _ (hnext ▸ hr)),
        hnext, hruns]

end SubGhzWorker

/-- Between two overruns, if what belongs to one level is shorter than the 30 bits of a duration, the
pairs that are passed on and the pending one behind them alternate, and together they are as long as
what was pending before and what was received. -/
theorem subghzWorker_conserves (w : SubGhzWorker) (events : List (Bool × BitVec 32))
    (h : ∀ r ∈ w.runs events, r.2 < 2 ^ 30) :
    (SubGhzWorker.passed (w.run events)).IsChain OppositeLevels ∧
      ((w.run events).1.map fun p => p.2.toNat).sum + (w.run events).2.duration.toNat =
        w.duration.toNat + (events.map fun e => e.2.toNat).sum := by
  have hpassed := w.passed_run events h
  refine ⟨by rw [hpassed]; exact isChain_runsFrom _ _ _ _, ?_⟩
  have hsum := sum_runsFrom w.filterDuration.toNat w.level w.duration.toNat
    (events.map fun e => (e.1, e.2.toNat))
  rw [← SubGhzWorker.runs, ← hpassed, SubGhzWorker.passed, List.map_append, List.map_append,
    List.sum_append] at hsum
  simpa [Function.comp_def] using hsum

/-- A glitch of 10 in a high level: one pair goes on, and 1060 are pending. -/
theorem subghzWorker_conserves_glitch :
    let events : List (Bool × BitVec 32) := [(true, 500), (false, 10), (true, 550)]
    (SubGhzWorker.passed (subghzWorkerAlloc.run events)).IsChain OppositeLevels ∧
      ((subghzWorkerAlloc.run events).1.map fun p => p.2.toNat).sum +
          (subghzWorkerAlloc.run events).2.duration.toNat =
        subghzWorkerAlloc.duration.toNat + (events.map fun e => e.2.toNat).sum :=
  subghzWorker_conserves subghzWorkerAlloc [(true, 500), (false, 10), (true, 550)] (by decide)

end FlipperZero
