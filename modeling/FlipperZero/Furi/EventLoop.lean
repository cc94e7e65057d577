import FlipperZero.Foundation.System
import Mathlib.Logic.Function.Basic

/-!
# The event loop

`furi_event_loop_run` and the message queues subscribed to it, with one queue per item. The
loop thread waits for a notification, whose value is a set of flags, and handles one of them.
Any thread may put into a queue, get from it or reset it, callbacks of the loop included: each
call changes the queue first and notifies the link of the queue afterwards, so other steps can
come in between.

Timers and pending callbacks appear by their flags only; what their callbacks do are steps of
the same kinds.
-/

namespace FlipperZero

open Foundation

/-- `FuriEventLoopEvent`: something left the queue, or arrived. -/
inductive FuriEventLoopEvent where
  | out
  | in
  deriving DecidableEq, Repr

/-- A notification value, a set of `FuriEventLoopFlag` bits. -/
structure FuriEventLoopFlags where
  event : Bool
  stop : Bool
  timer : Bool
  pending : Bool
  deriving DecidableEq, Repr

namespace FuriEventLoopFlags

def none : FuriEventLoopFlags := ⟨false, false, false, false⟩

/-- A notification is there. -/
def any (f : FuriEventLoopFlags) : Bool := f.event || f.stop || f.timer || f.pending

/-- `eSetBits`. -/
def union (f g : FuriEventLoopFlags) : FuriEventLoopFlags where
  event := f.event || g.event
  stop := f.stop || g.stop
  timer := f.timer || g.timer
  pending := f.pending || g.pending

end FuriEventLoopFlags

/-- Where the loop thread is in `furi_event_loop_run`, with the flags it woke up with. -/
inductive FuriEventLoopThread (Q : Type) where
  /-- Outside `furi_event_loop_run`. -/
  | stopped
  /-- In `xTaskNotifyWaitIndexed`. -/
  | waiting
  /-- Back from it, with the flags. -/
  | woken (flags : FuriEventLoopFlags)
  /-- Before `furi_event_loop_poll_process_event` for an item. -/
  | polling (flags : FuriEventLoopFlags) (item : Q)
  /-- In the callback of the item. -/
  | calling (flags : FuriEventLoopFlags) (item : Q)
  /-- In `furi_event_loop_item_notify`, before and after its critical section. -/
  | again (flags : FuriEventLoopFlags) (item : Q)
  | signalling (flags : FuriEventLoopFlags)
  /-- Before `furi_event_loop_restore_flags`. -/
  | restoring (flags : FuriEventLoopFlags)
  /-- In `furi_event_loop_process_pending_callbacks`. -/
  | pendingCallbacks
  deriving DecidableEq

/-- The loop, the queues, and the calls that have changed a queue but not notified yet. -/
structure FuriEventLoop (Q : Type) where
  capacity : Q → Nat
  count : Q → Nat
  subscribed : Q → Option FuriEventLoopEvent
  waitingList : List Q
  flags : FuriEventLoopFlags
  thread : FuriEventLoopThread Q
  calls : List (Q × FuriEventLoopEvent)

/-- The steps. The last seven are those of the loop thread in `furi_event_loop_run`. -/
inductive FuriEventLoopStep (Q : Type) where
  | subscribe (queue : Q) (event : FuriEventLoopEvent)
  | put (queue : Q)
  | get (queue : Q)
  | reset (queue : Q)
  | notify (call : Nat)
  | stop
  | timer
  | pendCallback
  | run
  | wake
  | dispatch
  | poll
  | callbackReturns (result : Bool)
  | notifyAgain
  | goOn

namespace FuriEventLoop

variable {Q : Type} [DecidableEq Q]

/-- `furi_event_loop_alloc`, with empty queues. -/
def alloc (capacity : Q → Nat) : FuriEventLoop Q where
  capacity := capacity
  count := fun _ => 0
  subscribed := fun _ => none
  waitingList := []
  flags := .none
  thread := .stopped
  calls := []

/-- `furi_message_queue_event_loop_get_level`. -/
def getLevel (s : FuriEventLoop Q) (q : Q) : FuriEventLoopEvent → Nat
  | .in  => s.count q
  | .out => s.capacity q - s.count q

/-- The critical section of `furi_event_loop_item_notify`: an item waits at most once. -/
def itemEnqueue (s : FuriEventLoop Q) (q : Q) : FuriEventLoop Q :=
  if q ∈ s.waitingList then s else { s with waitingList := s.waitingList ++ [q] }

/-- `xTaskNotifyIndexed` with `eSetBits`. -/
def notifyIndexed (s : FuriEventLoop Q) (flags : FuriEventLoopFlags) : FuriEventLoop Q :=
  { s with flags := s.flags.union flags }

def itemNotify (s : FuriEventLoop Q) (q : Q) : FuriEventLoop Q :=
  (s.itemEnqueue q).notifyIndexed { FuriEventLoopFlags.none with event := true }

/-- `furi_event_loop_link_notify`: the link of a queue has an item for one event at most. -/
def linkNotify (s : FuriEventLoop Q) (q : Q) (event : FuriEventLoopEvent) : FuriEventLoop Q :=
  if s.subscribed q = some event then s.itemNotify q else s

def messageQueueSubscribe (s : FuriEventLoop Q) (q : Q) (event : FuriEventLoopEvent) :
    FuriEventLoop Q :=
  let s := { s with subscribed := Function.update s.subscribed q (some event) }
  if 0 < s.getLevel q event then s.itemNotify q else s

/-- What `furi_event_loop_run` does with the flags it woke up with: one of them is handled, the
rest is restored, except that a stop drops them and that pending callbacks come last. -/
def dispatch (s : FuriEventLoop Q) (flags : FuriEventLoopFlags) : Option (FuriEventLoop Q) :=
  if flags.stop then some { s with thread := .stopped }
  else if flags.event then
    match s.waitingList with
    | []        => some { s with thread := .restoring { flags with event := false } }
    | q :: rest =>
      some { s with waitingList := rest, thread := .polling { flags with event := false } q }
  else if flags.timer then some { s with thread := .restoring { flags with timer := false } }
  else if flags.pending then some { s with thread := .pendingCallbacks }
  else none

/-- `furi_event_loop_poll_process_event` up to the callback. -/
def poll (s : FuriEventLoop Q) (flags : FuriEventLoopFlags) (q : Q) : FuriEventLoop Q :=
  match s.subscribed q with
  | none       => { s with thread := .restoring flags }
  | some event =>
    if s.getLevel q event = 0 then { s with thread := .restoring flags }
    else { s with thread := .calling flags q }

/-- The steps between two waits that take no decision: the end of
`furi_event_loop_item_notify`, `furi_event_loop_restore_flags` and the end of the loop body. -/
def goOn (s : FuriEventLoop Q) : Option (FuriEventLoop Q) :=
  match s.thread with
  | .signalling flags =>
    some { s.notifyIndexed { FuriEventLoopFlags.none with event := true } with
      thread := .restoring flags }
  | .restoring flags =>
    some { (if flags.any then s.notifyIndexed flags else s) with thread := .waiting }
  | .pendingCallbacks => some { s with thread := .waiting }
  | _ => none

/-- One step, `none` when it is not enabled. -/
def step (s : FuriEventLoop Q) : FuriEventLoopStep Q → Option (FuriEventLoop Q)
  | .subscribe q event =>
    if s.thread = .stopped ∧ s.subscribed q = none then some (s.messageQueueSubscribe q event)
    else none
  | .put q =>
    if s.count q < s.capacity q then
      some { s with
        count := Function.update s.count q (s.count q + 1), calls := s.calls ++ [(q, .in)] }
    else none
  | .get q =>
    if 0 < s.count q then
      some { s with
        count := Function.update s.count q (s.count q - 1), calls := s.calls ++ [(q, .out)] }
    else none
  | .reset q =>
    some { s with count := Function.update s.count q 0, calls := s.calls ++ [(q, .out)] }
  | .notify i =>
    match s.calls[i]? with
    | none            => none
    | some (q, event) => some ({ s with calls := s.calls.eraseIdx i }.linkNotify q event)
  | .stop         => some (s.notifyIndexed { FuriEventLoopFlags.none with stop := true })
  | .timer        => some (s.notifyIndexed { FuriEventLoopFlags.none with timer := true })
  | .pendCallback => some (s.notifyIndexed { FuriEventLoopFlags.none with pending := true })
  | .run          => if s.thread = .stopped then some { s with thread := .waiting } else none
  | .wake         =>
    if s.thread = .waiting ∧ s.flags.any then
      some { s with thread := .woken s.flags, flags := .none }
    else none
  | .dispatch =>
    match s.thread with
    | .woken flags => s.dispatch flags
    | _            => none
  | .poll =>
    match s.thread with
    | .polling flags q => some (s.poll flags q)
    | _                => none
  | .callbackReturns result =>
    match s.thread with
    | .calling flags q =>
      some { s with thread := if result then .polling flags q else .again flags q }
    | _ => none
  | .notifyAgain =>
    match s.thread with
    | .again flags q => some { s.itemEnqueue q with thread := .signalling flags }
    | _              => none
  | .goOn => s.goOn

end FuriEventLoop

def furiEventLoop (Q : Type) [DecidableEq Q] : System (FuriEventLoop Q) (FuriEventLoopStep Q) where
  step := FuriEventLoop.step

end FlipperZero
