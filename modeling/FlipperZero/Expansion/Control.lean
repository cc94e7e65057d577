import FlipperZero.Foundation.System
import Mathlib.Logic.Function.Basic

/-!
# The expansion control thread

The control thread of the expansion service takes messages from a queue of eight entries. API
callers post to it and wait for space, the detection callback posts and gives up when there is
none, and so does every worker thread: once when its connection is established and once when
it exits by itself. Disabling, changing the serial port and the exit of a worker make the
control thread join the worker, and while it joins it takes no message.

The messages of workers carry no identity in the source. Here they name their sender, which no
handler looks at: it is there to state who may be affected by the message.
-/

namespace FlipperZero

open Foundation

inductive FuriHalSerialId where
  | usart
  | lpuart
  deriving DecidableEq, Repr

inductive ExpansionState where
  | disabled
  | enabled
  | running
  | connectionEstablished
  deriving DecidableEq, Repr

/-- `ExpansionMessage`, with the worker that posted it. -/
inductive ExpansionMessage where
  | enable
  | disable
  | setListenSerial (serialId : FuriHalSerialId)
  | moduleConnected
  | moduleDisconnected (sender : Nat)
  | connectionEstablished (sender : Nat)
  | isConnected
  deriving DecidableEq, Repr

/-- The worker that posted a message. -/
def ExpansionMessage.sender : ExpansionMessage → Option Nat
  | .moduleDisconnected w | .connectionEstablished w => some w
  | _ => none

def expansionControlQueueSize : Nat := 8

/-! ### Worker threads -/

/-- Where a worker thread is. -/
inductive ExpansionWorkerThread where
  /-- In `expansion_worker_state_machine`, before or after the handshake. -/
  | receiving (connected : Bool)
  /-- In the callback with `ExpansionWorkerCallbackReasonConnected`. -/
  | postingConnected
  /-- In the callback with `ExpansionWorkerCallbackReasonExit`. -/
  | postingExit
  /-- After the callback, about to return. -/
  | returning
  | ended
  deriving DecidableEq, Repr

/-- An `ExpansionWorker` instance. `freed` counts how often the instance was freed. -/
structure ExpansionWorker where
  thread : ExpansionWorkerThread
  stopFlag : Bool
  rxBufFreed : Bool
  freed : Nat
  deriving DecidableEq, Repr

/-- What `expansion_worker_alloc` and `expansion_worker_start` leave. -/
def expansionWorkerStart : ExpansionWorker where
  thread := .receiving false
  stopFlag := false
  rxBufFreed := false
  freed := 0

/-- How many messages the worker may still post. -/
def ExpansionWorkerThread.postsLeft : ExpansionWorkerThread → Nat
  | .receiving false => 2
  | .receiving true  => 1
  | .postingConnected => 2
  | .postingExit => 1
  | .returning | .ended => 0

/-- The worker is in `furi_message_queue_put`. -/
def ExpansionWorkerThread.IsPosting (t : ExpansionWorkerThread) : Prop :=
  t = .postingConnected ∨ t = .postingExit

instance (t : ExpansionWorkerThread) : Decidable t.IsPosting :=
  inferInstanceAs (Decidable (_ ∨ _))

/-! ### The control thread -/

/-- The handlers that join a worker, with what they need afterwards. -/
inductive ExpansionJoin where
  | disable
  | setListenSerial (serialId : FuriHalSerialId)
  | moduleDisconnected
  deriving DecidableEq, Repr

/-- Where the control thread is: waiting for a message, in the join of
`expansion_worker_stop`, or in the join of `expansion_worker_free`. -/
inductive ExpansionControlThread where
  | waiting
  | stopping (handler : ExpansionJoin)
  | freeing (handler : ExpansionJoin)
  deriving DecidableEq, Repr

/-- The service: the `Expansion` instance, its worker instances and where its threads are.
`listening` is the serial port whose detection callback is set. -/
structure Expansion where
  uartIndex : Option FuriHalSerialId
  state : ExpansionState
  serialId : FuriHalSerialId
  listening : Option FuriHalSerialId
  worker : Nat
  workerCount : Nat
  workers : Nat → ExpansionWorker
  queue : List ExpansionMessage
  thread : ExpansionControlThread
  answer : Option Bool

namespace Expansion

/-- The service after `expansion_alloc`, with the port of the settings. -/
def init (uartIndex : Option FuriHalSerialId) : Expansion where
  uartIndex := uartIndex
  state := .disabled
  serialId := .usart
  listening := none
  worker := 0
  workerCount := 0
  workers := fun _ => expansionWorkerStart
  queue := []
  thread := .waiting
  answer := none

/-- The states in which the handlers take the worker for allocated. -/
def HasWorker (s : Expansion) : Prop :=
  s.state = .running ∨ s.state = .connectionEstablished

instance (s : Expansion) : Decidable s.HasWorker := inferInstanceAs (Decidable (_ ∨ _))

/-- Change one worker instance. -/
def setWorker (s : Expansion) (w : Nat) (x : ExpansionWorker) : Expansion :=
  { s with workers := Function.update s.workers w x }

section setWorker

variable (s : Expansion) (w : Nat) (x : ExpansionWorker)

@[simp] lemma setWorker_self : (s.setWorker w x).workers w = x := Function.update_self ..

@[simp] lemma setWorker_other {v : Nat} (h : v ≠ w) :
    (s.setWorker w x).workers v = s.workers v := Function.update_of_ne h ..

@[simp] lemma setWorker_state : (s.setWorker w x).state = s.state := rfl

@[simp] lemma setWorker_listening : (s.setWorker w x).listening = s.listening := rfl

@[simp] lemma setWorker_worker : (s.setWorker w x).worker = s.worker := rfl

@[simp] lemma setWorker_workerCount : (s.setWorker w x).workerCount = s.workerCount := rfl

@[simp] lemma setWorker_queue : (s.setWorker w x).queue = s.queue := rfl

@[simp] lemma setWorker_thread : (s.setWorker w x).thread = s.thread := rfl

end setWorker

/-- `expansion_worker_stop` up to its join. -/
def workerStop (s : Expansion) (handler : ExpansionJoin) : Expansion :=
  { s.setWorker s.worker { s.workers s.worker with stopFlag := true } with
    thread := .stopping handler }

/-- `expansion_worker_free` up to its join. -/
def workerFree (s : Expansion) (handler : ExpansionJoin) : Expansion :=
  { s.setWorker s.worker { s.workers s.worker with rxBufFreed := true } with
    thread := .freeing handler }

/-- What is left of a handler after the worker was freed. -/
def afterFree (s : Expansion) : ExpansionJoin → Expansion
  | .disable            => { s with state := .disabled }
  | .setListenSerial id =>
    { s with state := .enabled, serialId := id, listening := some id }
  | .moduleDisconnected => { s with listening := some s.serialId }

/-- `expansion_control_handler_enable`. -/
def handlerEnable (s : Expansion) : Expansion :=
  if s.state ≠ .disabled then s
  else
    match s.uartIndex with
    | some id => { s with state := .enabled, serialId := id, listening := some id }
    | none    => s

/-- `expansion_control_handler_disable`. -/
def handlerDisable (s : Expansion) : Expansion :=
  if s.state = .disabled then s
  else if s.HasWorker then s.workerStop .disable
  else { s with state := .disabled, listening := none }

/-- `expansion_control_handler_set_listen_serial`. -/
def handlerSetListenSerial (s : Expansion) (id : FuriHalSerialId) : Expansion :=
  if s.HasWorker then s.workerStop (.setListenSerial id)
  else { s with state := .enabled, serialId := id, listening := some id }

/-- `expansion_control_handler_module_connected`. -/
def handlerModuleConnected (s : Expansion) : Expansion :=
  if s.state ≠ .enabled then s
  else
    { s.setWorker s.workerCount expansionWorkerStart with
      listening := none
      state := .running
      worker := s.workerCount
      workerCount := s.workerCount + 1 }

/-- `expansion_control_handler_module_disconnected`. -/
def handlerModuleDisconnected (s : Expansion) : Expansion :=
  if s.HasWorker then { s with state := .enabled }.workerFree .moduleDisconnected
  else s

/-- `expansion_control_handler_connection_established`. -/
def handlerConnectionEstablished (s : Expansion) : Expansion :=
  if s.HasWorker then { s with state := .connectionEstablished } else s

/-- `expansion_control_handler_is_connected`. -/
def handlerIsConnected (s : Expansion) : Expansion :=
  { s with answer := some (s.state == .connectionEstablished) }

/-- `expansion_control_handlers`. -/
def handle (s : Expansion) : ExpansionMessage → Expansion
  | .enable                  => s.handlerEnable
  | .disable                 => s.handlerDisable
  | .setListenSerial id      => s.handlerSetListenSerial id
  | .moduleConnected         => s.handlerModuleConnected
  | .moduleDisconnected _    => s.handlerModuleDisconnected
  | .connectionEstablished _ => s.handlerConnectionEstablished
  | .isConnected             => s.handlerIsConnected

def HasSpace (s : Expansion) : Prop := s.queue.length < expansionControlQueueSize

instance (s : Expansion) : Decidable s.HasSpace := inferInstanceAs (Decidable (_ < _))

/-- `furi_message_queue_put`. -/
def put (s : Expansion) (m : ExpansionMessage) : Expansion := { s with queue := s.queue ++ [m] }

end Expansion

/-! ### The interleaved system -/

/-- What a worker thread can do next. -/
inductive ExpansionWorkerStep where
  /-- The handshake succeeds: call the callback. -/
  | connect
  /-- The state machine ends by a timeout or an error: call the callback. -/
  | fail
  /-- The stop flag is seen while receiving: exit without the callback. -/
  | stop
  /-- The queue takes the message of the callback. -/
  | put
  /-- Return from the thread. -/
  | finish
  deriving DecidableEq, Repr

/-- The steps of all threads. -/
inductive ExpansionEvent where
  /-- An API caller posts a message. -/
  | call (m : ExpansionMessage)
  /-- The detection callback. -/
  | detect
  /-- The control thread takes a message and runs its handler up to the first join. -/
  | handle
  /-- The join of the control thread returns. -/
  | joined
  /-- A worker thread makes a step. -/
  | worker (w : Nat) (a : ExpansionWorkerStep)
  deriving DecidableEq, Repr

namespace Expansion

/-- A step of the worker `w`. -/
def workerStep (s : Expansion) (w : Nat) (a : ExpansionWorkerStep) : Option Expansion :=
  let x := s.workers w
  match x.thread, a with
  | .receiving false, .connect => some (s.setWorker w { x with thread := .postingConnected })
  | .receiving _, .fail => some (s.setWorker w { x with thread := .postingExit })
  | .receiving _, .stop =>
    if x.stopFlag then some (s.setWorker w { x with thread := .ended }) else none
  | .postingConnected, .put =>
    if s.HasSpace then
      some ((s.setWorker w { x with thread := .receiving true }).put (.connectionEstablished w))
    else none
  | .postingExit, .put =>
    if s.HasSpace then
      some ((s.setWorker w { x with thread := .returning }).put (.moduleDisconnected w))
    else none
  | .returning, .finish => some (s.setWorker w { x with thread := .ended })
  | _, _ => none

/-- The join of the control thread returns once the worker thread has ended. The first join is
followed by `expansion_worker_free`, the second by the release of the instance and the rest of
the handler. -/
def joined (s : Expansion) : Option Expansion :=
  let x := s.workers s.worker
  if x.thread = .ended then
    match s.thread with
    | .waiting          => none
    | .stopping handler => some (s.workerFree handler)
    | .freeing handler  =>
      some ({ s.setWorker s.worker { x with freed := x.freed + 1 } with
        thread := .waiting }.afterFree handler)
  else none

def step (s : Expansion) : ExpansionEvent → Option Expansion
  | .call m =>
    if m.sender = none ∧ m ≠ .moduleConnected ∧ s.HasSpace then some (s.put m) else none
  | .detect =>
    if s.listening = none then none
    else if s.HasSpace then some (s.put .moduleConnected)
    else some s
  | .handle =>
    match s.thread, s.queue with
    | .waiting, m :: rest => some ({ s with queue := rest }.handle m)
    | _, _ => none
  | .joined => s.joined
  | .worker w a => if w < s.workerCount then s.workerStep w a else none

end Expansion

/-- The expansion service as a system of interleaved threads. -/
def expansionControl : System Expansion ExpansionEvent where
  step := Expansion.step

end FlipperZero
