import FlipperZero.Foundation.System
import Mathlib.Data.List.Sort
import Mathlib.Data.Fintype.Basic
import Mathlib.Logic.Function.Basic
import Mathlib.Algebra.Ring.Nat

/-!
# The timers of the event loop

`event_loop_timer.c`: the timers that run, in the order in which they expire, and the queue of the
requests to start, stop or free a timer. A request is carried out by the loop later, and a new request
for a timer takes the place of the one that waits. All calls come from the thread of the loop, the
callbacks of timers included; ticks pass between the steps.

The elapsed time of a timer is a difference of 32-bit tick counts, so it starts again from zero after
`2 ^ 32` ticks. Until then the list is in order.
-/

namespace FlipperZero

open Foundation

inductive FuriEventLoopTimerRequest where
  | none
  | start
  | stop
  | free
  deriving DecidableEq, Repr

structure FuriEventLoopTimer where
  interval : UInt32
  startTime : UInt32
  nextInterval : UInt32
  request : FuriEventLoopTimerRequest
  active : Bool
  periodic : Bool
  deriving DecidableEq, Repr

/-- The timers of a loop with their two lists, and the ticks since the start of the system. -/
structure FuriEventLoopTimers (T : Type) where
  ticks : Nat
  timer : T → Option FuriEventLoopTimer
  timerList : List T
  timerQueue : List T

/-- The steps: the calls of a user, the requests carried out one by one, the timer that expired first,
and the ticks that pass. -/
inductive FuriEventLoopTimerStep (T : Type) where
  | alloc (timer : T) (periodic : Bool)
  | start (timer : T) (interval : UInt32)
  | restart (timer : T)
  | stop (timer : T)
  | free (timer : T)
  | processRequest
  | processExpired
  | advance (ticks : Nat)

namespace FuriEventLoopTimers

variable {T : Type} [DecidableEq T] (s : FuriEventLoopTimers T)

def xTaskGetTickCount : UInt32 := UInt32.ofNat s.ticks

/-- `furi_event_loop_timer_get_elapsed_time`. -/
def getElapsedTime (t : FuriEventLoopTimer) : UInt32 := s.xTaskGetTickCount - t.startTime

/-- `furi_event_loop_timer_get_remaining_time_private`. -/
def getRemainingTime (t : FuriEventLoopTimer) : UInt32 :=
  if s.getElapsedTime t < t.interval then t.interval - s.getElapsedTime t else 0

/-- `furi_event_loop_timer_is_expired`. -/
def isExpired (t : FuriEventLoopTimer) : Bool := t.interval ≤ s.getElapsedTime t

def remainingTime (x : T) : UInt32 := ((s.timer x).map s.getRemainingTime).getD 0

def setTimer (x : T) (t : Option FuriEventLoopTimer) : FuriEventLoopTimers T :=
  { s with timer := Function.update s.timer x t }

/-- `furi_event_loop_schedule_timer`: from the back of the list, the timer goes behind the first one
that does not remain longer. -/
def scheduleTimer (x : T) : FuriEventLoopTimers T :=
  { s with
    timerList :=
      (s.timerList.reverse.orderedInsert (fun y z => s.remainingTime z ≤ s.remainingTime y) x).reverse }

/-- `furi_event_loop_timer_enqueue_request`, which stops the device when the timer is being freed. -/
def enqueueRequest (x : T) (t : FuriEventLoopTimer) (request : FuriEventLoopTimerRequest) :
    Option (FuriEventLoopTimers T) :=
  if t.request = .free then none
  else
    let timerQueue := if t.request ≠ .none then s.timerQueue.erase x else s.timerQueue
    some { s.setTimer x (some { t with request := request }) with timerQueue := timerQueue ++ [x] }

/-- `furi_event_loop_timer_alloc`: the memory is cleared. -/
def timerAlloc (x : T) (periodic : Bool) : FuriEventLoopTimers T :=
  s.setTimer x (some ⟨0, 0, 0, .none, false, periodic⟩)

/-- `furi_event_loop_timer_start`. -/
def timerStart (x : T) (t : FuriEventLoopTimer) (interval : UInt32) :
    Option (FuriEventLoopTimers T) :=
  s.enqueueRequest x { t with nextInterval := interval } .start

/-- `furi_event_loop_timer_restart`. -/
def timerRestart (x : T) (t : FuriEventLoopTimer) : Option (FuriEventLoopTimers T) :=
  s.enqueueRequest x { t with nextInterval := t.interval } .start

/-- `furi_event_loop_timer_stop`. -/
def timerStop (x : T) (t : FuriEventLoopTimer) : Option (FuriEventLoopTimers T) :=
  s.enqueueRequest x t .stop

/-- `furi_event_loop_timer_free`. -/
def timerFree (x : T) (t : FuriEventLoopTimer) : Option (FuriEventLoopTimers T) :=
  s.enqueueRequest x t .free

/-- `TimerList_unlink`. -/
def unlink (x : T) : FuriEventLoopTimers T := { s with timerList := s.timerList.erase x }

/-- What a round of `furi_event_loop_process_timer_queue` does with the timer it took. A timer without
a request stops the device. -/
def processTimer (x : T) (t : FuriEventLoopTimer) : Option (FuriEventLoopTimers T) :=
  let s := if t.active then s.unlink x else s
  match t.request with
  | .start =>
    some ((s.setTimer x (some { t with
      active := true
      interval := t.nextInterval
      startTime := s.xTaskGetTickCount
      request := .none })).scheduleTimer x)
  | .stop  => some (s.setTimer x (some { t with active := false, request := .none }))
  | .free  => some (s.setTimer x none)
  | .none  => none

/-- A round of `furi_event_loop_process_timer_queue`. -/
def processRequest : Option (FuriEventLoopTimers T) :=
  match s.timerQueue with
  | []      => none
  | x :: xs => (s.timer x).bind ({ s with timerQueue := xs }.processTimer x)

/-- What `furi_event_loop_process_expired_timers` does with the timer that expired. There is no result
when it divides by zero. -/
def expireTimer (x : T) (t : FuriEventLoopTimer) : Option (FuriEventLoopTimers T) :=
  let s := s.unlink x
  if t.periodic then
    if t.interval = 0 then none
    else
      let numEvents := s.getElapsedTime t / t.interval
      some ((s.setTimer x (some { t with
        startTime := t.startTime + t.interval * numEvents })).scheduleTimer x)
  else some (s.setTimer x (some { t with active := false }))

/-- `furi_event_loop_process_expired_timers`, up to the callback. -/
def processExpiredTimers : Option (FuriEventLoopTimers T) :=
  match s.timerList with
  | []     => some s
  | x :: _ =>
    (s.timer x).bind fun t => if s.isExpired t then s.expireTimer x t else some s

def step : FuriEventLoopTimerStep T → Option (FuriEventLoopTimers T)
  | .alloc x periodic  => if s.timer x = none then some (s.timerAlloc x periodic) else none
  | .start x interval  => (s.timer x).bind fun t => s.timerStart x t interval
  | .restart x         => (s.timer x).bind fun t => s.timerRestart x t
  | .stop x            => (s.timer x).bind fun t => s.timerStop x t
  | .free x            => (s.timer x).bind fun t => s.timerFree x t
  | .processRequest    => s.processRequest
  | .processExpired    => s.processExpiredTimers
  | .advance ticks     => some { s with ticks := s.ticks + ticks }

end FuriEventLoopTimers

def furiEventLoopTimers (T : Type) [DecidableEq T] :
    System (FuriEventLoopTimers T) (FuriEventLoopTimerStep T) where
  step := FuriEventLoopTimers.step

namespace FuriEventLoopTimers

variable {T : Type} {s s' : FuriEventLoopTimers T} {x y : T} {t t' : FuriEventLoopTimer}

/-! ### The two lists -/

/-- The list holds the active timers, each once and in the order of their remaining time, and the queue
holds the timers with a request, each once. -/
structure WellLinked (s : FuriEventLoopTimers T) : Prop where
  list_nodup : s.timerList.Nodup
  mem_list : ∀ x, x ∈ s.timerList ↔ ∃ t, s.timer x = some t ∧ t.active = true
  ordered : s.timerList.Pairwise fun x y => s.remainingTime x ≤ s.remainingTime y
  queue_nodup : s.timerQueue.Nodup
  mem_queue : ∀ x, x ∈ s.timerQueue ↔ ∃ t, s.timer x = some t ∧ t.request ≠ .none

/-- A loop that was just allocated. -/
def init (ticks : Nat) : FuriEventLoopTimers T where
  ticks := ticks
  timer _ := none
  timerList := []
  timerQueue := []

lemma init_wellLinked (ticks : Nat) : (init ticks : FuriEventLoopTimers T).WellLinked where
  list_nodup := List.nodup_nil
  mem_list _ := ⟨fun hx => absurd hx List.not_mem_nil, fun ⟨_, ht, _⟩ => nomatch ht⟩
  ordered := List.Pairwise.nil
  queue_nodup := List.nodup_nil
  mem_queue _ := ⟨fun hx => absurd hx List.not_mem_nil, fun ⟨_, ht, _⟩ => nomatch ht⟩

/-! ### Scheduling -/

lemma mem_scheduleTimer : y ∈ (s.scheduleTimer x).timerList ↔ y = x ∨ y ∈ s.timerList := by
  rw [scheduleTimer, List.mem_reverse, List.mem_orderedInsert, List.mem_reverse]

lemma scheduleTimer_nodup (h : s.timerList.Nodup) (hx : x ∉ s.timerList) :
    (s.scheduleTimer x).timerList.Nodup := by
  rw [scheduleTimer, List.nodup_reverse, (List.perm_orderedInsert _ _ _).nodup_iff]
  exact List.nodup_cons.mpr ⟨fun hmem => hx (List.mem_reverse.mp hmem), List.nodup_reverse.mpr h⟩

lemma scheduleTimer_ordered
    (h : s.timerList.Pairwise fun x y => s.remainingTime x ≤ s.remainingTime y) :
    (s.scheduleTimer x).timerList.Pairwise fun x y => s.remainingTime x ≤ s.remainingTime y := by
  have htotal : Std.Total fun y z => s.remainingTime z ≤ s.remainingTime y :=
    ⟨fun y z => UInt32.le_total (s.remainingTime z) (s.remainingTime y)⟩
  have htrans : IsTrans T fun y z => s.remainingTime z ≤ s.remainingTime y :=
    ⟨fun _ _ _ hzy hwz => UInt32.le_trans hwz hzy⟩
  rw [scheduleTimer, List.pairwise_reverse]
  exact (List.pairwise_reverse.mpr h).orderedInsert x _

/-! ### What a step keeps -/

variable [DecidableEq T]

lemma setTimer_timer_self {t : Option FuriEventLoopTimer} : (s.setTimer x t).timer x = t :=
  Function.update_self ..

lemma setTimer_timer_of_ne {t : Option FuriEventLoopTimer} (h : y ≠ x) :
    (s.setTimer x t).timer y = s.timer y := Function.update_of_ne h ..

lemma remainingTime_setTimer_of_ne {t : Option FuriEventLoopTimer} (h : y ≠ x) :
    (s.setTimer x t).remainingTime y = s.remainingTime y := by
  rw [remainingTime, setTimer_timer_of_ne h]
  rfl

lemma WellLinked.update (h : s.WellLinked) {t : Option FuriEventLoopTimer}
    {timerList timerQueue : List T} (hlist : timerList.Nodup)
    (hlistSelf : x ∈ timerList ↔ ∃ u, t = some u ∧ u.active = true)
    (hlistOther : ∀ y, y ≠ x → (y ∈ timerList ↔ y ∈ s.timerList))
    (hordered : timerList.Pairwise fun y z =>
      (s.setTimer x t).remainingTime y ≤ (s.setTimer x t).remainingTime z)
    (hqueue : timerQueue.Nodup)
    (hqueueSelf : x ∈ timerQueue ↔ ∃ u, t = some u ∧ u.request ≠ .none)
    (hqueueOther : ∀ y, y ≠ x → (y ∈ timerQueue ↔ y ∈ s.timerQueue)) :
    WellLinked { s.setTimer x t with timerList := timerList, timerQueue := timerQueue } where
  list_nodup := hlist
  mem_list y := by
    by_cases hy : y = x
    · subst hy
      simp only [setTimer_timer_self, hlistSelf]
    · simp only [setTimer_timer_of_ne hy, hlistOther y hy, h.mem_list]
  ordered := hordered
  queue_nodup := hqueue
  mem_queue y := by
    by_cases hy : y = x
    · subst hy
      simp only [setTimer_timer_self, hqueueSelf]
    · simp only [setTimer_timer_of_ne hy, hqueueOther y hy, h.mem_queue]

/-- To take out a timer that is not in the list changes nothing. -/
lemma unlink_eq (h : x ∈ s.timerList → t.active = true) :
    (if t.active then s.unlink x else s) = s.unlink x := by
  split_ifs with hactive
  · rfl
  · rw [unlink, List.erase_of_not_mem fun hmem => hactive (h hmem)]

omit [DecidableEq T] in
lemma WellLinked.active_of_mem (h : s.WellLinked) (hx : s.timer x = some t)
    (hmem : x ∈ s.timerList) : t.active = true := by
  obtain ⟨u, hu, hactive⟩ := (h.mem_list x).mp hmem
  cases hx.symm.trans hu
  exact hactive

lemma WellLinked.ordered_erase (h : s.WellLinked) (t : Option FuriEventLoopTimer) :
    (s.timerList.erase x).Pairwise fun y z =>
      (s.setTimer x t).remainingTime y ≤ (s.setTimer x t).remainingTime z := by
  refine (h.ordered.sublist List.erase_sublist).imp_of_mem fun hy hz hle => ?_
  rw [remainingTime_setTimer_of_ne (h.list_nodup.mem_erase_iff.mp hy).1,
    remainingTime_setTimer_of_ne (h.list_nodup.mem_erase_iff.mp hz).1]
  exact hle

lemma WellLinked.alloc (h : s.WellLinked) (hx : s.timer x = none) (periodic : Bool) :
    (s.timerAlloc x periodic).WellLinked := by
  have hlist : x ∉ s.timerList := fun hmem => by
    obtain ⟨u, hu, -⟩ := (h.mem_list x).mp hmem
    cases hx.symm.trans hu
  have hqueue : x ∉ s.timerQueue := fun hmem => by
    obtain ⟨u, hu, -⟩ := (h.mem_queue x).mp hmem
    cases hx.symm.trans hu
  refine h.update h.list_nodup (iff_of_false hlist ?_) (fun _ _ => Iff.rfl) ?_ h.queue_nodup
    (iff_of_false hqueue ?_) fun _ _ => Iff.rfl
  · rintro ⟨u, hu, hactive⟩
    cases hu
    cases hactive
  · have hordered := h.ordered_erase (x := x) (some ⟨0, 0, 0, .none, false, periodic⟩)
    rwa [List.erase_of_not_mem hlist] at hordered
  · rintro ⟨u, hu, hrequest⟩
    cases hu
    exact hrequest rfl

lemma WellLinked.dequeue_eq (h : s.WellLinked) (hx : s.timer x = some t) :
    (if t.request ≠ .none then s.timerQueue.erase x else s.timerQueue) = s.timerQueue.erase x := by
  split_ifs with hwaits
  · rfl
  · refine (List.erase_of_not_mem fun hmem => ?_).symm
    obtain ⟨u, hu, hne⟩ := (h.mem_queue x).mp hmem
    cases hx.symm.trans hu
    exact hwaits hne

/-- A request changes neither the interval nor the start of its timer. -/
lemma WellLinked.enqueueRequest (h : s.WellLinked) (hx : s.timer x = some t)
    {request : FuriEventLoopTimerRequest} {nextInterval : UInt32} (hrequest : request ≠ .none)
    (hs : s.enqueueRequest x { t with nextInterval := nextInterval } request = some s') :
    s'.WellLinked := by
  have hfree : t.request ≠ .free := fun hfree => by
    rw [FuriEventLoopTimers.enqueueRequest, if_pos hfree] at hs
    cases hs
  rw [FuriEventLoopTimers.enqueueRequest, if_neg hfree] at hs
  have hs' : { s.setTimer x (some { t with nextInterval := nextInterval, request := request }) with
      timerQueue := s.timerQueue.erase x ++ [x] } = s' := by
    rw [← h.dequeue_eq hx]
    exact Option.some.inj hs
  have hremaining (y : T) : (s.setTimer x (some { t with
      nextInterval := nextInterval, request := request })).remainingTime y = s.remainingTime y := by
    by_cases hy : y = x
    · subst hy
      rw [remainingTime, remainingTime, setTimer_timer_self, hx]
      rfl
    · exact remainingTime_setTimer_of_ne hy
  have hmem (y : T) : y ∈ s.timerQueue.erase x ↔ y ≠ x ∧ y ∈ s.timerQueue :=
    h.queue_nodup.mem_erase_iff
  rw [← hs']
  refine h.update h.list_nodup ?_ (fun _ _ => Iff.rfl) ?_ ?_ ?_ fun y hy => ?_
  · refine (h.mem_list x).trans ?_
    rw [hx]
    simp
  · simp only [hremaining]
    exact h.ordered
  · exact List.nodup_append.mpr ⟨h.queue_nodup.erase x, List.nodup_singleton x,
      fun y hy z hz => List.mem_singleton.mp hz ▸ ((hmem y).mp hy).1⟩
  · exact iff_of_true (List.mem_append_right _ (List.mem_singleton_self x)) ⟨_, rfl, hrequest⟩
  · simp only [List.mem_append, List.mem_singleton, hmem, hy, ne_eq, not_false_eq_true,
      true_and, or_false]

lemma WellLinked.schedule (h : s.WellLinked) {timerQueue : List T} (hactive : t.active = true)
    (hqueue : timerQueue.Nodup)
    (hqueueSelf : x ∈ timerQueue ↔ t.request ≠ .none)
    (hqueueOther : ∀ y, y ≠ x → (y ∈ timerQueue ↔ y ∈ s.timerQueue)) :
    ({ (s.unlink x).setTimer x (some t) with timerQueue := timerQueue }.scheduleTimer x).WellLinked := by
  have hmem (y : T) : y ∈ s.timerList.erase x ↔ y ≠ x ∧ y ∈ s.timerList :=
    h.list_nodup.mem_erase_iff
  have hout : x ∉ s.timerList.erase x := fun hx => ((hmem x).mp hx).1 rfl
  refine h.update (scheduleTimer_nodup (h.list_nodup.erase x) hout) ?_ ?_ ?_ hqueue ?_ hqueueOther
  · exact iff_of_true (mem_scheduleTimer.mpr (.inl rfl)) ⟨t, rfl, hactive⟩
  · intro y hy
    refine mem_scheduleTimer.trans ?_
    exact ⟨fun hor => hor.elim (absurd · hy) fun hin => ((hmem y).mp hin).2,
      fun hin => .inr ((hmem y).mpr ⟨hy, hin⟩)⟩
  · refine scheduleTimer_ordered (s := { (s.unlink x).setTimer x (some t) with
      timerQueue := timerQueue }) ?_
    exact h.ordered_erase (some t)
  · rw [hqueueSelf]
    simp

lemma WellLinked.deactivate (h : s.WellLinked) {t : Option FuriEventLoopTimer}
    {timerQueue : List T} (hactive : ∀ u, t = some u → u.active = false) (hqueue : timerQueue.Nodup)
    (hqueueSelf : x ∈ timerQueue ↔ ∃ u, t = some u ∧ u.request ≠ .none)
    (hqueueOther : ∀ y, y ≠ x → (y ∈ timerQueue ↔ y ∈ s.timerQueue)) :
    { (s.unlink x).setTimer x t with timerQueue := timerQueue }.WellLinked := by
  have hmem (y : T) : y ∈ s.timerList.erase x ↔ y ≠ x ∧ y ∈ s.timerList :=
    h.list_nodup.mem_erase_iff
  refine h.update (h.list_nodup.erase x) (iff_of_false (fun hx => ((hmem x).mp hx).1 rfl) ?_) ?_
    (h.ordered_erase t) hqueue hqueueSelf hqueueOther
  · rintro ⟨u, hu, htrue⟩
    rw [hactive u hu] at htrue
    cases htrue
  · intro y hy
    exact (hmem y).trans (and_iff_right hy)

lemma WellLinked.processRequest (h : s.WellLinked) (hs : s.processRequest = some s') :
    s'.WellLinked := by
  rw [FuriEventLoopTimers.processRequest] at hs
  cases hqueue : s.timerQueue with
  | nil =>
    rw [hqueue] at hs
    cases hs
  | cons x xs =>
    rw [hqueue] at hs
    obtain ⟨t, ht, hs⟩ := Option.bind_eq_some_iff.mp hs
    have hnodup : (x :: xs).Nodup := hqueue ▸ h.queue_nodup
    have hout : x ∉ xs := (List.nodup_cons.mp hnodup).1
    have hother (y : T) (hy : y ≠ x) : y ∈ xs ↔ y ∈ s.timerQueue := by
      rw [hqueue, List.mem_cons, or_iff_right hy]
    have hunlink := unlink_eq (s := { s with timerQueue := xs }) (h.active_of_mem ht)
    simp only [processTimer, hunlink] at hs
    split at hs
    · cases hs
      exact h.schedule rfl hnodup.of_cons (iff_of_false hout fun hne => hne rfl) hother
    · cases hs
      exact h.deactivate (fun u hu => by cases hu; rfl) hnodup.of_cons
        (iff_of_false hout fun ⟨u, hu, hne⟩ => by cases hu; exact hne rfl) hother
    · cases hs
      exact h.deactivate (fun u hu => nomatch hu) hnodup.of_cons
        (iff_of_false hout fun ⟨u, hu, _⟩ => nomatch hu) hother
    · cases hs

lemma WellLinked.expireTimer (h : s.WellLinked) (ht : s.timer x = some t) (hmem : x ∈ s.timerList)
    (hs : s.expireTimer x t = some s') : s'.WellLinked := by
  have hqueue : x ∈ s.timerQueue ↔ t.request ≠ .none := by
    rw [h.mem_queue x, ht]
    simp
  rw [FuriEventLoopTimers.expireTimer] at hs
  split_ifs at hs with hperiodic hzero
  · cases hs
    have hactive := h.active_of_mem ht hmem
    exact h.schedule hactive h.queue_nodup hqueue fun _ _ => Iff.rfl
  · cases hs
    refine h.deactivate (fun u hu => by cases hu; rfl) h.queue_nodup (hqueue.trans ?_)
      fun _ _ => Iff.rfl
    simp

lemma WellLinked.processExpiredTimers (h : s.WellLinked) (hs : s.processExpiredTimers = some s') :
    s'.WellLinked := by
  rw [FuriEventLoopTimers.processExpiredTimers] at hs
  split at hs
  · cases hs
    exact h
  · rename_i x _ hlist
    obtain ⟨t, ht, hs⟩ := Option.bind_eq_some_iff.mp hs
    split_ifs at hs with hexpired
    · exact h.expireTimer ht (hlist ▸ List.mem_cons_self) hs
    · cases hs
      exact h

/-! ### Time -/

/-- The ticks that pass do not take the elapsed time of an active timer to `2 ^ 32`. -/
def InTime (s : FuriEventLoopTimers T) : FuriEventLoopTimerStep T → Prop
  | .advance ticks => ∀ x, ∀ t ∈ s.timer x, t.active = true →
      (s.getElapsedTime t).toNat + ticks < 2 ^ 32
  | _              => True

instance [Fintype T] (s : FuriEventLoopTimers T) :
    (e : FuriEventLoopTimerStep T) → Decidable (s.InTime e)
  | .advance ticks => inferInstanceAs (Decidable (∀ x, ∀ t ∈ s.timer x, t.active = true →
      (s.getElapsedTime t).toNat + ticks < 2 ^ 32))
  | .alloc .. | .start .. | .restart _ | .stop _ | .free _ | .processRequest | .processExpired =>
    .isTrue trivial

omit [DecidableEq T] in
lemma getElapsedTime_advance {ticks : Nat} (h : (s.getElapsedTime t).toNat + ticks < 2 ^ 32) :
    ({ s with ticks := s.ticks + ticks }.getElapsedTime t).toNat =
      (s.getElapsedTime t).toNat + ticks := by
  simp only [getElapsedTime, xTaskGetTickCount, UInt32.toNat_sub, UInt32.toNat_ofNat'] at h ⊢
  omega

omit [DecidableEq T] in
lemma getRemainingTime_toNat :
    (s.getRemainingTime t).toNat = t.interval.toNat - (s.getElapsedTime t).toNat := by
  unfold getRemainingTime
  split_ifs with hlt
  · exact UInt32.toNat_sub_of_le _ _ (UInt32.le_of_lt hlt)
  · have hle := UInt32.le_iff_toNat_le.mp (UInt32.not_lt.mp hlt)
    rw [Nat.sub_eq_zero_of_le hle]
    rfl

omit [DecidableEq T] in
lemma WellLinked.advance (h : s.WellLinked) {ticks : Nat}
    (hticks : ∀ x, ∀ t ∈ s.timer x, t.active = true →
      (s.getElapsedTime t).toNat + ticks < 2 ^ 32) :
    { s with ticks := s.ticks + ticks }.WellLinked where
  list_nodup := h.list_nodup
  mem_list := h.mem_list
  ordered := by
    have hremaining (x : T) (hx : x ∈ s.timerList) :
        ({ s with ticks := s.ticks + ticks }.remainingTime x).toNat =
          (s.remainingTime x).toNat - ticks := by
      obtain ⟨t, ht, hactive⟩ := (h.mem_list x).mp hx
      simp only [remainingTime, ht, Option.map_some, Option.getD_some, getRemainingTime_toNat,
        getElapsedTime_advance (hticks x t ht hactive), Nat.sub_sub]
    refine h.ordered.imp_of_mem fun hx hy hle => ?_
    rw [UInt32.le_iff_toNat_le] at hle ⊢
    rw [hremaining _ hx, hremaining _ hy]
    exact Nat.sub_le_sub_right hle ticks
  queue_nodup := h.queue_nodup
  mem_queue := h.mem_queue

/-- What is kept by a step, when the ticks that pass are few enough. -/
lemma WellLinked.step (h : s.WellLinked) {e : FuriEventLoopTimerStep T} (he : s.InTime e)
    (hs : s.step e = some s') : s'.WellLinked := by
  cases e with
  | alloc x periodic =>
    rw [FuriEventLoopTimers.step] at hs
    split_ifs at hs with hx
    cases hs
    exact h.alloc hx periodic
  | start x interval =>
    obtain ⟨t, ht, hs⟩ := Option.bind_eq_some_iff.mp hs
    exact h.enqueueRequest ht FuriEventLoopTimerRequest.noConfusion hs
  | restart x =>
    obtain ⟨t, ht, hs⟩ := Option.bind_eq_some_iff.mp hs
    exact h.enqueueRequest ht FuriEventLoopTimerRequest.noConfusion hs
  | stop x =>
    obtain ⟨t, ht, hs⟩ := Option.bind_eq_some_iff.mp hs
    exact h.enqueueRequest ht FuriEventLoopTimerRequest.noConfusion hs
  | free x =>
    obtain ⟨t, ht, hs⟩ := Option.bind_eq_some_iff.mp hs
    exact h.enqueueRequest ht FuriEventLoopTimerRequest.noConfusion hs
  | processRequest => exact h.processRequest hs
  | processExpired => exact h.processExpiredTimers hs
  | advance ticks =>
    cases hs
    exact h.advance he

end FuriEventLoopTimers

open FuriEventLoopTimers

/-- In a run without a timer that stays in the list until its elapsed time starts again, the list holds
the active timers in the order of their remaining time and the queue those with a request, each once,
and a timer that was freed is in neither. -/
theorem furiEventLoopTimers_wellLinked {T : Type} [DecidableEq T] (ticks : Nat)
    (s : FuriEventLoopTimers T) (hrun : (furiEventLoopTimers T).Reaches InTime (init ticks) s) :
    s.WellLinked ∧ ∀ x, s.timer x = none → x ∉ s.timerList ∧ x ∉ s.timerQueue := by
  have h : s.WellLinked :=
    hrun.invariant (init_wellLinked ticks) fun _ _ _ hs he hstep => hs.step he hstep
  refine ⟨h, fun x hx => ⟨fun hmem => ?_, fun hmem => ?_⟩⟩
  · obtain ⟨t, ht, -⟩ := (h.mem_list x).mp hmem
    cases hx.symm.trans ht
  · obtain ⟨t, ht, -⟩ := (h.mem_queue x).mp hmem
    cases hx.symm.trans ht

/-- Two timers run, and the one that was started last remains shorter. -/
theorem furiEventLoopTimers_wellLinked_two :
    ∃ s : FuriEventLoopTimers Bool,
      (furiEventLoopTimers Bool).Reaches InTime (init 0) s ∧ s.timerList = [true, false] ∧
        s.WellLinked := by
  have hview : ((furiEventLoopTimers Bool).replay InTime (init 0)
      [.alloc false true, .start false 30, .processRequest, .advance 35, .processExpired,
        .alloc true false, .start true 10, .processRequest]).map timerList =
      some [true, false] := by
    decide +kernel
  obtain ⟨s, hs, hlist⟩ := Option.map_eq_some_iff.mp hview
  have hrun := System.Reaches.of_replay .refl hs
  exact ⟨s, hrun, hlist, (furiEventLoopTimers_wellLinked 0 s hrun).1⟩

/-- The elapsed time of the first timer of the list starts again: it has all of its time left, and the
timer behind it is expired. -/
theorem furiEventLoopTimers_out_of_order :
    ∃ s : FuriEventLoopTimers Bool,
      (furiEventLoopTimers Bool).Reaches (fun _ _ => True) (init 0) s ∧
        s.timerList = [false, true] ∧ s.remainingTime false = 10 ∧ s.remainingTime true = 0 ∧
        ¬ s.WellLinked := by
  have hview : ((furiEventLoopTimers Bool).replay (fun _ _ => True) (init 0)
      [.alloc false false, .alloc true false, .start false 10, .processRequest, .advance 5,
        .start true 20, .processRequest, .advance (2 ^ 32 - 5)]).map
          (fun s => (s.timerList, s.remainingTime false, s.remainingTime true)) =
      some ([false, true], 10, 0) := by
    decide +kernel
  obtain ⟨s, hs, hv⟩ := Option.map_eq_some_iff.mp hview
  simp only [Prod.mk.injEq] at hv
  obtain ⟨hlist, hfirst, hsecond⟩ := hv
  refine ⟨s, .of_replay .refl hs, hlist, hfirst, hsecond, fun h => ?_⟩
  have hordered := h.ordered
  rw [hlist, List.pairwise_pair, hfirst, hsecond] at hordered
  revert hordered
  decide

end FlipperZero
