import FlipperZero.BadUsb.ScriptPreload
import FlipperZero.Foundation.Mealy

/-!
# The worker of a BadUSB script

`bad_usb_worker` waits for events and, while a script runs, executes its lines. One pass through its
loop is a step: the input says what the wait yields, the output what is sent to the host, for how
long the worker has waited, and the state that it shows. The text and the line of an error and the
delay that is left are for the screen only and are left out.
-/

namespace FlipperZero

open Foundation

inductive BadUsbWorkerState where
  | init | notConnected | idle | willRun | running | delay | stringDelay | waitForBtn | paused
  | done | scriptError | fileError
  deriving DecidableEq

/-- `WorkerEvtFlags`. -/
structure BadUsbFlags where
  evtEnd : Bool := false
  connect : Bool := false
  disconnect : Bool := false
  startStop : Bool := false
  pauseResume : Bool := false

/-- What happens while the worker goes through its loop once. -/
structure BadUsbEvents where
  /-- What the wait yields; nothing when the time is up. -/
  flags : Option BadUsbFlags
  /-- What the extra time for the host to see the keyboard yields. -/
  extra : Option BadUsbFlags := none
  /-- The light of the number lock, after what has been sent in this pass. -/
  numLock : List HidCall → Bool := fun _ => true

/-- What a pass through the loop shows to the outside. -/
structure BadUsbOutput where
  /-- The wait in milliseconds; nothing when it has no end. -/
  wait : Option Nat
  calls : List HidCall
  state : BadUsbWorkerState
  lineCur : Nat
  deriving DecidableEq

/-- The state of `bad_usb_worker`. The calls that the commands have made are those of one pass. -/
structure BadUsbWorker where
  /-- Where the loop is; nothing when it has been left, or a line does not come back. -/
  workerState : Option BadUsbWorkerState
  pauseState : BadUsbWorkerState
  delayVal : Int
  script : BadUsbScript
  stringPrintPos : Nat
  /-- `st.state`. -/
  state : BadUsbWorkerState

namespace BadUsbWorker

variable (w : BadUsbWorker)

/-- The loop is left. -/
def leave : BadUsbWorker := { w with workerState := none }

/-- The worker goes to a state and shows it. -/
def goTo (state : BadUsbWorkerState) : BadUsbWorker :=
  { w with workerState := some state, state }

def releaseAll : BadUsbWorker :=
  { w with script := { w.script with cmd := w.script.cmd.send [.releaseAll] } }

/-- `delay_cur`, a word of 16 bits. -/
def delayCur : Nat := if 1000 < w.delayVal then 1000 else (w.delayVal % 2 ^ 16).toNat

/-- The delay between two characters of a text. -/
def stringDelay : BitVec 32 :=
  if w.script.cmd.stringdelay = 0 then w.script.cmd.defstringdelay else w.script.cmd.stringdelay

def wait : Option Nat :=
  match w.workerState with
  | some .running     => some w.delayCur
  | some .stringDelay => some w.stringDelay.toNat
  | _                 => none

end BadUsbWorker

/-- What the start on a connection resets. The number of the keys that are held is not among it. -/
def duckyScriptStartConnected (s : BadUsbScript) : BadUsbScript :=
  { s with
    reader := { s.reader with pos := 0, bufLen := 0, fileEnd := false }
    lineCur := 0
    cmd := { s.cmd with defdelay := 0, stringdelay := 0, defstringdelay := 0, repeatCnt := 0 } }

/-- What `ducky_string_next` does with a character. -/
def duckyPrintChar (keys : DuckyKeys) (printChar : UInt8) (s : DuckyState) : DuckyState :=
  if printChar ≠ 10 then
    let keycode := badusbAsciiToKey keys printChar
    if keycode ≠ 0 then s.tap (.code keycode) else s
  else s.tap .keyboardReturn

def duckyStringNext (keys : DuckyKeys) (w : BadUsbWorker) : Bool × BadUsbWorker :=
  let s := w.script.cmd
  if s.stringPrint.length ≤ w.stringPrintPos then (true, w)
  else
    let printChar := s.stringPrint.getD w.stringPrintPos 0
    (false, { w with
      script := { w.script with cmd := duckyPrintChar keys printChar s }
      stringPrintPos := w.stringPrintPos + 1 })

/-! ### The states -/

section States

variable (file : List UInt8) (keys : DuckyKeys) (w : BadUsbWorker)

/-- `BadUsbStateNotConnected`. -/
def badUsbNotConnected (flags : BadUsbFlags) : BadUsbWorker :=
  if flags.evtEnd then w.leave
  else if flags.connect then w.goTo .idle
  else if flags.startStop then w.goTo .willRun
  else w.goTo .notConnected

/-- `BadUsbStateIdle`. -/
def badUsbIdle (flags : BadUsbFlags) : BadUsbWorker :=
  if flags.evtEnd then w.leave
  else if flags.startStop then
    { w with delayVal := 0, script := duckyScriptStart w.script }.goTo .running
  else if flags.disconnect then w.goTo .notConnected
  else w.goTo .idle

/-- `BadUsbStateWillRun`. -/
def badUsbWillRun (flags : BadUsbFlags) (extra : Option BadUsbFlags) : BadUsbWorker :=
  if flags.evtEnd then w.leave
  else if flags.connect then
    let w := { w with delayVal := 0, script := duckyScriptStartConnected w.script }
    match extra with
    | none       => w.goTo .running
    | some flags => if flags.startStop then w.goTo .idle else w.goTo .willRun
  else if flags.startStop then w.goTo .notConnected
  else w.goTo .willRun

/-- What the events of a script that runs, in any of its states, have in common. -/
def badUsbStop (flags : BadUsbFlags) (other : BadUsbWorker) : BadUsbWorker :=
  if flags.evtEnd then w.leave
  else if flags.startStop then (w.goTo .idle).releaseAll
  else if flags.disconnect then (w.goTo .notConnected).releaseAll
  else other

/-- `BadUsbStateRunning` after its wait, when no event has come. -/
def badUsbExecute : BadUsbWorker :=
  match duckyScriptExecuteNext file keys w.script with
  | none                  => w.leave
  | some (result, script) =>
    let w := { w with script, delayVal := result, state := .running }
    if result = scriptStateError then ({ w with delayVal := 0 }.goTo .scriptError).releaseAll
    else if result = scriptStateEnd then
      { w with delayVal := 0, workerState := some .idle, state := .done }.releaseAll
    else if result = scriptStateStringStart then
      { w with
        delayVal := script.cmd.defdelay.toInt
        stringPrintPos := 0
        workerState := some .stringDelay }
    else if result = scriptStateWaitForBtn then w.goTo .waitForBtn
    else if 1000 < result then { w with state := .delay }
    else w

/-- `BadUsbStateRunning`. The delay that is left is a word of 32 bits. -/
def badUsbRunning (flags : Option BadUsbFlags) : BadUsbWorker :=
  let w := { w with delayVal := Int.bmod (w.delayVal - w.delayCur) (2 ^ 32) }
  match flags with
  | some flags =>
    badUsbStop w flags
      (if flags.pauseResume then { w with pauseState := .running }.goTo .paused
        else w.goTo .running)
  | none       => if 0 < w.delayVal then w else badUsbExecute file keys w

/-- `BadUsbStateWaitForBtn`. -/
def badUsbWaitForBtn (flags : BadUsbFlags) : BadUsbWorker :=
  if flags.evtEnd then w.leave
  else if flags.startStop then { w with delayVal := 0 }.goTo .running
  else if flags.disconnect then (w.goTo .notConnected).releaseAll
  else w.goTo .waitForBtn

/-- `BadUsbStatePaused`. -/
def badUsbPaused (flags : BadUsbFlags) : BadUsbWorker :=
  badUsbStop w flags
    (if flags.pauseResume then
      if w.pauseState = .running then
        if 0 < w.delayVal then { w with state := .delay, workerState := some .running }
        else { w with state := .running, delayVal := 0, workerState := some .running }
      else if w.pauseState = .stringDelay then
        { w with state := .running, workerState := some .stringDelay }
      else w
    else w)

/-- `BadUsbStateStringDelay`. -/
def badUsbStringDelay (flags : Option BadUsbFlags) : BadUsbWorker :=
  match flags with
  | some flags =>
    badUsbStop w flags
      (if flags.pauseResume then { w with pauseState := .stringDelay }.goTo .paused
        else w.goTo .stringDelay)
  | none       =>
    let (stringEnd, w) := duckyStringNext keys w
    if stringEnd then
      { w with
        script := { w.script with cmd := { w.script.cmd with stringdelay := 0 } }
        workerState := some .running }
    else w

/-- One pass through the loop, for a worker that waits. A wait without an end yields an event. -/
def badUsbPass (e : BadUsbEvents) : BadUsbWorker :=
  let keys := { keys with numLock := e.numLock }
  match w.workerState, e.flags with
  | some .notConnected, some flags => badUsbNotConnected w flags
  | some .idle, some flags         => badUsbIdle w flags
  | some .willRun, some flags      => badUsbWillRun w flags e.extra
  | some .running, flags           => badUsbRunning file keys w flags
  | some .waitForBtn, some flags   => badUsbWaitForBtn w flags
  | some .paused, some flags       => badUsbPaused w flags
  | some .stringDelay, flags       => badUsbStringDelay keys w flags
  | some .scriptError, some flags  => if flags.evtEnd then w.leave else w
  | some .fileError, some flags    => if flags.evtEnd then w.leave else w
  | _, _                           => w

/-- The calls of the passes before are behind the worker. -/
def BadUsbWorker.drain : BadUsbWorker :=
  { w with script := { w.script with cmd := { w.script.cmd with sent := [] } } }

/-- `bad_usb_worker`, after `BadUsbStateInit`. -/
def badUsbWorker : Mealy BadUsbWorker BadUsbEvents BadUsbOutput where
  step w e :=
    let w' := badUsbPass file keys w.drain e
    ({ wait := w.wait, calls := w'.script.cmd.sent, state := w'.state,
       lineCur := w'.script.lineCur }, w')

/-- `BadUsbStateInit`, in a worker that has been allocated: the file that is opened, if it is one,
and whether the host is connected. -/
def badUsbInit (file : Option (List UInt8)) (connected : Bool) : BadUsbWorker :=
  let w : BadUsbWorker :=
    { workerState := some .init, pauseState := .running, delayVal := 0, script := idleScript
      stringPrintPos := 0, state := .init }
  match file with
  | none      => w.goTo .fileError
  | some file =>
    match duckyScriptPreload file 0 with
    | none             => w.leave
    | some (lineNb, _) =>
      if lineNb = 0 then w.goTo .scriptError
      else if connected then w.goTo .idle
      else w.goTo .notConnected

end States

end FlipperZero
