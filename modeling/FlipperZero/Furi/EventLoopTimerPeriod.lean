import FlipperZero.Furi.EventLoopTimer
import Mathlib.Data.Nat.ModEq

/-!
# Periodic timers

When a periodic timer expires, `furi_event_loop_process_expired_timers` divides by its interval, and
nothing keeps that from being zero: `furi_event_loop_timer_start` takes any interval, and
`furi_event_loop_timer_restart` copies the interval of the timer, which is still zero as long as the
first start waits in the queue. When every start that is carried out has an interval, no division is by
zero and a periodic timer stays in step with its start.
-/

namespace FlipperZero

open Foundation

namespace FuriEventLoopTimers

variable {T : Type} [DecidableEq T]

/-- No start without an interval is carried out for a periodic timer, and the ticks that pass do not
take the elapsed time of an active timer to `2 ^ 32`. -/
def HasPeriod (s : FuriEventLoopTimers T) : FuriEventLoopTimerStep T → Prop
  | .processRequest => ∀ x ∈ s.timerQueue.head?, ∀ t ∈ s.timer x,
      t.request = .start → t.periodic = true → t.nextInterval ≠ 0
  | .advance ticks  => s.InTime (.advance ticks)
  | _               => True

instance [Fintype T] (s : FuriEventLoopTimers T) :
    (e : FuriEventLoopTimerStep T) → Decidable (s.HasPeriod e)
  | .processRequest => inferInstanceAs (Decidable (∀ x ∈ s.timerQueue.head?, ∀ t ∈ s.timer x,
      t.request = .start → t.periodic = true → t.nextInterval ≠ 0))
  | .advance ticks  => inferInstanceAs (Decidable (s.InTime (.advance ticks)))
  | .alloc .. | .start .. | .restart _ | .stop _ | .free _ | .processExpired => .isTrue trivial

/-- The ticks at which the timers were started: a start is carried out when it is taken from the
queue. -/
def started (s : FuriEventLoopTimers T) (startedAt : T → Nat) : FuriEventLoopTimerStep T → T → Nat
  | .processRequest, y =>
    if s.timerQueue.head? = some y ∧ (s.timer y).any (·.request = .start) then s.ticks
    else startedAt y
  | _, y               => startedAt y

end FuriEventLoopTimers

open FuriEventLoopTimers

def furiEventLoopTimersStarted (T : Type) [DecidableEq T] :
    System (FuriEventLoopTimers T × (T → Nat)) (FuriEventLoopTimerStep T) where
  step r e := (r.1.step e).map fun s => (s, r.1.started r.2 e)

namespace FuriEventLoopTimers

variable {T : Type} {s s' : FuriEventLoopTimers T} {x y : T} {t t' : FuriEventLoopTimer}
  {startedAt : T → Nat}

/-! ### In step -/

/-- The start time of a timer is a number of intervals behind the tick at which it was started, and
its elapsed time is the time that has passed since. -/
structure InStep (ticks started : Nat) (t : FuriEventLoopTimer) (time : Nat) : Prop where
  startTime_eq : t.startTime = UInt32.ofNat time
  started_le : started ≤ time
  modEq : time ≡ started [MOD t.interval.toNat]
  le_ticks : time ≤ ticks
  ticks_lt : ticks < time + 2 ^ 32

def AllInStep (s : FuriEventLoopTimers T) (startedAt : T → Nat) : Prop :=
  ∀ x, ∀ t ∈ s.timer x, t.active = true →
    (t.periodic = true → t.interval ≠ 0) ∧ ∃ time, InStep s.ticks (startedAt x) t time

lemma InStep.elapsed {started time : Nat} (h : InStep s.ticks started t time) :
    (s.getElapsedTime t).toNat = s.ticks - time := by
  have hle := h.le_ticks
  have hlt := h.ticks_lt
  rw [getElapsedTime, xTaskGetTickCount, h.startTime_eq, UInt32.toNat_sub, UInt32.toNat_ofNat',
    UInt32.toNat_ofNat']
  omega

lemma InStep.expire {started time : Nat} (h : InStep s.ticks started t time) (hzero : t.interval ≠ 0) :
    ∃ time', InStep s.ticks started { t with
        startTime := t.startTime + t.interval * (s.getElapsedTime t / t.interval) } time' ∧
      s.ticks < time' + t.interval.toNat := by
  have helapsed := h.elapsed
  have hle := h.le_ticks
  have hpos : 0 < t.interval.toNat := Nat.pos_of_ne_zero fun h0 => hzero (UInt32.toNat_inj.mp h0)
  have hdiv := Nat.div_add_mod (s.ticks - time) t.interval.toNat
  have hmod := Nat.mod_lt (s.ticks - time) hpos
  refine ⟨time + t.interval.toNat * ((s.ticks - time) / t.interval.toNat), ⟨?_, ?_, ?_, ?_, ?_⟩, ?_⟩
  · rw [← UInt32.toNat_inj, h.startTime_eq, UInt32.toNat_add, UInt32.toNat_mul, UInt32.toNat_div,
      helapsed, UInt32.toNat_ofNat', UInt32.toNat_ofNat']
    exact (Nat.add_mod ..).symm
  · exact h.started_le.trans (Nat.le_add_right ..)
  · exact Nat.add_modulus_mul_modEq_iff.mpr h.modEq
  · omega
  · have := h.ticks_lt
    omega
  · omega

lemma InStep.remaining {started time : Nat} (h : InStep s.ticks started t time)
    (hlt : s.ticks < time + t.interval.toNat) :
    0 < (s.getRemainingTime t).toNat ∧ (s.getRemainingTime t).toNat ≤ t.interval.toNat := by
  have hle := h.le_ticks
  rw [getRemainingTime_toNat, h.elapsed]
  omega

lemma InStep.advance {started time ticks : Nat} (h : InStep s.ticks started t time)
    (hticks : (s.getElapsedTime t).toNat + ticks < 2 ^ 32) :
    InStep (s.ticks + ticks) started t time where
  startTime_eq := h.startTime_eq
  started_le := h.started_le
  modEq := h.modEq
  le_ticks := h.le_ticks.trans (Nat.le_add_right ..)
  ticks_lt := by
    have hle := h.le_ticks
    rw [h.elapsed] at hticks
    omega

lemma InStep.start : InStep s.ticks s.ticks { t with
    active := true, interval := t.nextInterval, startTime := s.xTaskGetTickCount,
    request := .none } s.ticks where
  startTime_eq := rfl
  started_le := Nat.le_refl _
  modEq := Nat.ModEq.refl _
  le_ticks := Nat.le_refl _
  ticks_lt := by omega

/-! ### What a step keeps -/

lemma AllInStep.advance (h : AllInStep s startedAt) {ticks : Nat}
    (hticks : s.InTime (.advance ticks)) :
    AllInStep { s with ticks := s.ticks + ticks } startedAt := by
  intro x t ht hactive
  obtain ⟨hperiod, time, hstep⟩ := h x t ht hactive
  exact ⟨hperiod, time, hstep.advance (hticks x t ht hactive)⟩

variable [DecidableEq T]

lemma AllInStep.update (h : AllInStep s startedAt) {t : Option FuriEventLoopTimer}
    {startedAt' : T → Nat} (hticks : s'.ticks = s.ticks)
    (htimer : s'.timer = Function.update s.timer x t)
    (hself : ∀ u ∈ t, u.active = true → (u.periodic = true → u.interval ≠ 0) ∧
      ∃ time, InStep s.ticks (startedAt' x) u time)
    (hother : ∀ y, y ≠ x → startedAt' y = startedAt y) : AllInStep s' startedAt' := by
  intro y u hu hactive
  rw [htimer] at hu
  rw [hticks]
  by_cases hy : y = x
  · subst hy
    rw [Function.update_self] at hu
    exact hself u hu hactive
  · rw [Function.update_of_ne hy] at hu
    rw [hother y hy]
    exact h y u hu hactive

lemma AllInStep.enqueueRequest (h : AllInStep s startedAt) (hx : s.timer x = some t)
    {request : FuriEventLoopTimerRequest} {nextInterval : UInt32}
    (hs : s.enqueueRequest x { t with nextInterval := nextInterval } request = some s') :
    AllInStep s' startedAt := by
  rw [FuriEventLoopTimers.enqueueRequest] at hs
  split at hs
  · cases hs
  · cases hs
    refine h.update rfl rfl (fun u hu hactive => ?_) fun _ _ => rfl
    cases hu
    obtain ⟨hperiod, time, hstep⟩ := h x t hx hactive
    exact ⟨hperiod, time, hstep.startTime_eq, hstep.started_le, hstep.modEq, hstep.le_ticks,
      hstep.ticks_lt⟩

lemma processTimer_timer (hs : s.processTimer x t = some s') :
    s'.ticks = s.ticks ∧ ∃ u, s'.timer = Function.update s.timer x u ∧
      ∀ v ∈ u, v.active = true → t.request = .start ∧
        v = { t with
          active := true, interval := t.nextInterval, startTime := s.xTaskGetTickCount,
          request := .none } := by
  -- the list does not matter here
  have hsame : ∀ s₁ : FuriEventLoopTimers T, s₁ = (if t.active then s.unlink x else s) →
      s₁.ticks = s.ticks ∧ s₁.timer = s.timer := by
    rintro s₁ rfl
    split_ifs <;> exact ⟨rfl, rfl⟩
  obtain ⟨hticks, htimer⟩ := hsame _ rfl
  rw [processTimer] at hs
  generalize (if t.active then s.unlink x else s) = s₁ at hs hticks htimer
  have hcount : s₁.xTaskGetTickCount = s.xTaskGetTickCount := congrArg UInt32.ofNat hticks
  split at hs
  · rename_i hstart
    cases hs
    exact ⟨hticks, _, congrArg (Function.update · x _) htimer, fun v hv _ => by
      cases hv
      exact ⟨hstart, by rw [hcount]⟩⟩
  · cases hs
    exact ⟨hticks, _, congrArg (Function.update · x _) htimer, fun v hv hactive => by
      cases hv
      cases hactive⟩
  · cases hs
    exact ⟨hticks, none, by rw [← htimer]; rfl, fun v hv => absurd hv (Option.not_mem_none v)⟩
  · cases hs

lemma AllInStep.processRequest (h : AllInStep s startedAt) (he : s.HasPeriod .processRequest)
    (hs : s.processRequest = some s') : AllInStep s' (s.started startedAt .processRequest) := by
  rw [FuriEventLoopTimers.processRequest] at hs
  cases hqueue : s.timerQueue with
  | nil =>
    rw [hqueue] at hs
    cases hs
  | cons x xs =>
    rw [hqueue] at hs
    obtain ⟨t, ht, hs⟩ := Option.bind_eq_some_iff.mp hs
    have hhead : s.timerQueue.head? = some x := by rw [hqueue, List.head?_cons]
    have hother (y : T) (hy : y ≠ x) : s.started startedAt .processRequest y = startedAt y := by
      refine if_neg fun hstart => hy ?_
      exact (Option.some.inj (hhead.symm.trans hstart.1)).symm
    obtain ⟨hticks, u, htimer, hactive⟩ := processTimer_timer hs
    refine h.update hticks htimer (fun v hv hv' => ?_) hother
    obtain ⟨hstart, rfl⟩ := hactive v hv hv'
    have hnow : s.started startedAt .processRequest x = s.ticks := by
      refine if_pos ⟨hhead, ?_⟩
      rw [ht]
      exact decide_eq_true hstart
    rw [hnow]
    exact ⟨he x hhead t ht hstart, s.ticks, InStep.start⟩

lemma AllInStep.expireTimer (h : AllInStep s startedAt) (ht : s.timer x = some t)
    (hactive : t.active = true) (hs : s.expireTimer x t = some s') : AllInStep s' startedAt := by
  rw [FuriEventLoopTimers.expireTimer] at hs
  obtain ⟨hperiod, time, hstep⟩ := h x t ht hactive
  split_ifs at hs with hperiodic hzero
  · cases hs
    obtain ⟨time', hstep', -⟩ := hstep.expire hzero
    exact h.update rfl rfl (fun u hu _ => by cases hu; exact ⟨hperiod, time', hstep'⟩) fun _ _ => rfl
  · cases hs
    exact h.update rfl rfl (fun u hu hfalse => by cases hu; cases hfalse) fun _ _ => rfl

lemma AllInStep.step (h : AllInStep s startedAt) (hlinked : s.WellLinked)
    {e : FuriEventLoopTimerStep T} (he : s.HasPeriod e) (hs : s.step e = some s') :
    AllInStep s' (s.started startedAt e) := by
  cases e with
  | alloc x periodic =>
    rw [FuriEventLoopTimers.step] at hs
    split_ifs at hs with hx
    cases hs
    exact h.update rfl rfl (fun u hu hactive => by cases hu; cases hactive) fun _ _ => rfl
  | start x interval =>
    obtain ⟨t, ht, hs⟩ := Option.bind_eq_some_iff.mp hs
    exact h.enqueueRequest ht hs
  | restart x =>
    obtain ⟨t, ht, hs⟩ := Option.bind_eq_some_iff.mp hs
    exact h.enqueueRequest ht hs
  | stop x =>
    obtain ⟨t, ht, hs⟩ := Option.bind_eq_some_iff.mp hs
    exact h.enqueueRequest ht hs
  | free x =>
    obtain ⟨t, ht, hs⟩ := Option.bind_eq_some_iff.mp hs
    exact h.enqueueRequest ht hs
  | processRequest => exact h.processRequest he hs
  | processExpired =>
    rw [FuriEventLoopTimers.step, FuriEventLoopTimers.processExpiredTimers] at hs
    split at hs
    · cases hs
      exact h
    · rename_i x _ hlist
      obtain ⟨t, ht, hs⟩ := Option.bind_eq_some_iff.mp hs
      split_ifs at hs with hexpired
      · exact h.expireTimer ht (hlinked.active_of_mem ht (hlist ▸ List.mem_cons_self)) hs
      · cases hs
        exact h
  | advance ticks =>
    cases hs
    exact h.advance he

lemma processExpiredTimers_eq (hx : s.timerList.head? = some x) (ht : s.timer x = some t) :
    s.step .processExpired = if s.isExpired t then s.expireTimer x t else some s := by
  obtain ⟨xs, hlist⟩ := List.head?_eq_some_iff.mp hx
  rw [FuriEventLoopTimers.step, FuriEventLoopTimers.processExpiredTimers, hlist]
  exact (congrArg (Option.bind · _) ht).trans rfl

omit [DecidableEq T] in
lemma HasPeriod.inTime {e : FuriEventLoopTimerStep T} (h : s.HasPeriod e) :
    s.InTime e := by
  cases e with
  | advance ticks => exact h
  | _ => trivial

end FuriEventLoopTimers

/-- In a run that starts no periodic timer without an interval and leaves no active timer for `2 ^ 32`
ticks, the processing of expired timers never divides by zero. A periodic timer that was processed has
some of its interval left, at most all of it, and its start time is the last tick that is a number of
intervals behind the tick it was started at. -/
theorem furiEventLoopTimers_inStep {T : Type} [DecidableEq T] (ticks : Nat) (startedAt : T → Nat)
    (r : FuriEventLoopTimers T × (T → Nat))
    (hrun : (furiEventLoopTimersStarted T).Reaches (fun r => HasPeriod r.1) (init ticks, startedAt) r) :
    (r.1.step .processExpired).isSome ∧
    ∀ x ∈ r.1.timerList.head?, ∀ t ∈ r.1.timer x, t.periodic = true → r.1.isExpired t = true →
      ∃ s' t' time, r.1.step .processExpired = some s' ∧ s'.timer x = some t' ∧
        t'.interval = t.interval ∧
        0 < (s'.getRemainingTime t').toNat ∧ (s'.getRemainingTime t').toNat ≤ t.interval.toNat ∧
        t'.startTime = UInt32.ofNat time ∧ r.2 x ≤ time ∧
        time ≡ r.2 x [MOD t.interval.toNat] ∧
        time ≤ s'.ticks ∧ s'.ticks < time + t.interval.toNat := by
  have h : r.1.WellLinked ∧ AllInStep r.1 r.2 := by
    refine hrun.invariant (I := fun r => r.1.WellLinked ∧ AllInStep r.1 r.2)
      ⟨init_wellLinked ticks, fun _ _ ht => nomatch ht⟩ fun r r' e hr he hstep => ?_
    obtain ⟨s', hs', rfl⟩ := Option.map_eq_some_iff.mp hstep
    exact ⟨hr.1.step he.inTime hs', hr.2.step hr.1 he hs'⟩
  obtain ⟨s, startedAt⟩ := r
  obtain ⟨hlinked, hinStep⟩ := h
  have hfirst (x : T) (hx : x ∈ s.timerList.head?) : ∃ t, s.timer x = some t ∧ t.active = true :=
    (hlinked.mem_list x).mp (List.mem_of_mem_head? hx)
  refine ⟨?_, fun x hx t ht hperiodic hexpired => ?_⟩
  · cases hhead : s.timerList.head? with
    | none =>
      rw [FuriEventLoopTimers.step, processExpiredTimers, List.head?_eq_none_iff.mp hhead]
      rfl
    | some x =>
      obtain ⟨t, ht, hactive⟩ := hfirst x hhead
      have hzero := (hinStep x t ht hactive).1
      rw [processExpiredTimers_eq hhead ht, expireTimer]
      split_ifs with hexpired hperiodic h0
      · exact absurd h0 (hzero hperiodic)
      · rfl
      · rfl
      · rfl
  · obtain ⟨u, hu, hactive⟩ := hfirst x hx
    cases ht.symm.trans hu
    obtain ⟨hzero, time, hstep⟩ := hinStep x t ht hactive
    obtain ⟨time', hstep', hlt⟩ := hstep.expire (hzero hperiodic)
    let t' := { t with startTime := t.startTime + t.interval * (s.getElapsedTime t / t.interval) }
    have hrun : s.step .processExpired =
        some (((s.unlink x).setTimer x (some t')).scheduleTimer x) := by
      rw [processExpiredTimers_eq hx ht, if_pos hexpired, expireTimer, if_pos hperiodic,
        if_neg (hzero hperiodic)]
      rfl
    exact ⟨_, t', time', hrun, setTimer_timer_self, rfl, (hstep'.remaining hlt).1,
      (hstep'.remaining hlt).2, hstep'.startTime_eq, hstep'.started_le, hstep'.modEq,
      hstep'.le_ticks, hlt⟩

/-- A timer with an interval of 30 ticks is processed 95 ticks after its start. -/
theorem furiEventLoopTimers_inStep_thirty :
    ∃ (r : FuriEventLoopTimers Bool × (Bool → Nat)) (s' : FuriEventLoopTimers Bool)
      (t' : FuriEventLoopTimer),
      (furiEventLoopTimersStarted Bool).Reaches (fun r => HasPeriod r.1) (init 7, fun _ => 0) r ∧
        r.1.step .processExpired = some s' ∧ s'.timer true = some t' ∧
        0 < (s'.getRemainingTime t').toNat ∧ (s'.getRemainingTime t').toNat ≤ 30 := by
  have hview : ((furiEventLoopTimersStarted Bool).replay (fun r => HasPeriod r.1)
      (init 7, fun _ => 0)
      [.alloc true true, .start true 30, .processRequest, .restart true, .processRequest,
        .advance 95]).map (fun r => (r.1.timerList.head?, r.1.timer true,
          (r.1.timer true).map r.1.isExpired)) =
      some (some true, some ⟨30, 7, 30, .none, true, true⟩, some true) := by
    decide +kernel
  obtain ⟨r, hr, hv⟩ := Option.map_eq_some_iff.mp hview
  simp only [Prod.mk.injEq] at hv
  obtain ⟨hhead, htimer, hexpired⟩ := hv
  rw [htimer] at hexpired
  have hrun := System.Reaches.of_replay .refl hr
  obtain ⟨s', t', time, hstep, ht', -, hpos, hle, -⟩ := (furiEventLoopTimers_inStep 7 (fun _ => 0)
    r hrun).2 true hhead _ htimer rfl (Option.some.inj hexpired)
  exact ⟨r, s', t', hrun, hstep, ht', hpos, hle⟩

/-- A periodic timer is started with an interval of 10 ticks and restarted at once: the restart copies
the interval that the timer does not have yet. The processing of the expired timer divides by it. -/
theorem furiEventLoopTimers_divides_by_zero :
    ∃ s : FuriEventLoopTimers Bool,
      (furiEventLoopTimers Bool).Reaches (fun _ _ => True) (init 0) s ∧
        s.timerList = [true] ∧
        (∃ t, s.timer true = some t ∧ t.periodic = true ∧ t.interval = 0 ∧ s.isExpired t = true) ∧
        s.step .processExpired = none := by
  have hview : ((furiEventLoopTimers Bool).replay (fun _ _ => True) (init 0)
      [.alloc true true, .start true 10, .restart true, .processRequest]).map
        (fun s => (s.timerList, s.timer true, (s.timer true).map s.isExpired,
          (s.step .processExpired).isNone)) =
      some ([true], some ⟨0, 0, 0, .none, true, true⟩, some true, true) := by
    decide +kernel
  obtain ⟨s, hs, hv⟩ := Option.map_eq_some_iff.mp hview
  simp only [Prod.mk.injEq] at hv
  obtain ⟨hlist, htimer, hexpired, hnone⟩ := hv
  rw [htimer] at hexpired
  exact ⟨s, .of_replay .refl hs, hlist, ⟨_, htimer, rfl, rfl, Option.some.inj hexpired⟩,
    Option.isNone_iff_eq_none.mp hnone⟩

end FlipperZero
