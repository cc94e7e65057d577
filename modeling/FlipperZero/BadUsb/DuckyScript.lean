import FlipperZero.BadUsb.DuckyCommands
import FlipperZero.Foundation.Loop
import FlipperZero.Furi.FuriString

/-!
# Running a BadUSB script

`ducky_script_execute_next` reads the next line of the file through a buffer of 16 bytes and executes
it, or executes the line before it again while a count of repeats is left.
-/

namespace FlipperZero

open Foundation

def fileBufferLen : Nat := 16

/-- The part of `BadUsbScript` that reads the file. -/
structure DuckyReader where
  /-- The position in the file. -/
  pos : Nat
  fileBuf : Nat → UInt8
  bufStart : Nat
  bufLen : Nat
  fileEnd : Bool

structure BadUsbScript where
  reader : DuckyReader
  line : List UInt8
  linePrev : List UInt8
  lineCur : Nat
  errorLine : Nat
  cmd : DuckyState

/-! ### Reading a line -/

variable (file : List UInt8) (keys : DuckyKeys)

/-- The buffer is filled again. At the end of the file a line end is put behind it, once. -/
def DuckyReader.fill (r : DuckyReader) : DuckyReader :=
  let bytes := (file.drop r.pos).take fileBufferLen
  let pos := r.pos + bytes.length
  let fileBuf := fun i => bytes.getD i (r.fileBuf i)
  if file.length ≤ pos ∧ bytes.length < fileBufferLen ∧ r.fileEnd = false then
    { pos, fileBuf := Function.update fileBuf bytes.length 10, bufStart := 0,
      bufLen := bytes.length + 1, fileEnd := true }
  else { pos, fileBuf, bufStart := 0, bufLen := bytes.length, fileEnd := r.fileEnd }

/-- The loop over the buffer, with `n` bytes left from the index `i` on: whether a line has come to
its end, what has been read of it, and the index behind. -/
def duckyScanBuffer (fileBuf : Nat → UInt8) : Nat → Nat → List UInt8 → Bool × List UInt8 × Nat
  | 0, i, line     => (false, line, i)
  | n + 1, i, line =>
    if fileBuf i = 10 ∧ line ≠ [] then (true, line, i + 1)
    else duckyScanBuffer fileBuf n (i + 1) (line ++ [fileBuf i])

/-- One round of the loop in `ducky_script_execute_next`: it leaves with a line, or at the end of
the file, and with what is in `line`. -/
def duckyReadRound (s : DuckyReader × List UInt8) :
    Round (DuckyReader × List UInt8) (Bool × DuckyReader × List UInt8) :=
  let r := if s.1.bufLen = 0 then s.1.fill file else s.1
  if r.bufLen = 0 then .leave (false, r, s.2)
  else
    let scanned := duckyScanBuffer r.fileBuf r.bufLen r.bufStart s.2
    if scanned.1 then
      .leave (true, { r with
        bufLen := r.bufLen + r.bufStart - scanned.2.2
        bufStart := scanned.2.2 }, furiStringTrim scanned.2.1)
    else
      let r := { r with bufLen := 0 }
      if r.fileEnd then .leave (false, r, scanned.2.1) else .again (r, scanned.2.1)

/-- The bytes that are still to be scanned, with the line end behind the file. -/
def DuckyReader.left (r : DuckyReader) : Nat :=
  (file.length - r.pos) + r.bufLen + if r.fileEnd then 0 else 1

/-- The next line. The loop makes a round for every buffer. -/
def duckyReadLine (r : DuckyReader) : Option (Bool × DuckyReader × List UInt8) :=
  loop (duckyReadRound file) (r.left file + 1) (r, [])

/-! ### Executing a line -/

/-- Whether the result of a line is an error for a call. -/
def duckyIsLineError (delayVal : Int) : Bool :=
  delayVal < 0 ∧ delayVal ≠ scriptStateNextLine ∧ delayVal ≠ scriptStateStringStart ∧
    delayVal ≠ scriptStateWaitForBtn

/-- What a call returns for the result of a line. The sum with the delay is one of 32 bits. -/
def duckyCallResult (defdelay : BitVec 32) (delayVal : Int) : Int :=
  if delayVal = scriptStateNextLine then 0
  else if delayVal = scriptStateStringStart then delayVal
  else if delayVal = scriptStateWaitForBtn then delayVal
  else if delayVal < 0 then scriptStateError
  else (BitVec.ofInt 32 delayVal + defdelay).toInt

/-- `ducky_script_execute_next`. It returns nothing when the line does not come to its end. -/
def duckyScriptExecuteNext (s : BadUsbScript) : Option (Int × BadUsbScript) :=
  if s.cmd.repeatCnt ≠ 0 then
    let cmd := { s.cmd with repeatCnt := s.cmd.repeatCnt - 1 }
    match duckyParseLine keys s.linePrev cmd with
    | none => none
    | some (delayVal, cmd) =>
      let result := duckyCallResult cmd.defdelay delayVal
      some (result, { s with
        cmd, errorLine := if duckyIsLineError delayVal then s.lineCur - 1 else s.errorLine })
  else
    match duckyReadLine file s.reader with
    | none => none
    | some (false, reader, line) =>
      some (scriptStateEnd, { s with reader, line, linePrev := s.line })
    | some (true, reader, line) =>
      match duckyParseLine keys line s.cmd with
      | none => none
      | some (delayVal, cmd) =>
        let result := duckyCallResult cmd.defdelay delayVal
        some (result, { s with
          reader, line, linePrev := s.line, lineCur := s.lineCur + 1, cmd
          errorLine := if duckyIsLineError delayVal then s.lineCur + 1 else s.errorLine })

/-- The state in which `bad_usb_worker` starts a script, with what is left of an earlier run. -/
def duckyScriptStart (s : BadUsbScript) : BadUsbScript :=
  { s with
    reader := { s.reader with pos := 0, bufLen := 0, fileEnd := false }
    lineCur := 0
    cmd := { s.cmd with
      defdelay := 0, stringdelay := 0, defstringdelay := 0, repeatCnt := 0, keyHoldNb := 0 } }

end FlipperZero
