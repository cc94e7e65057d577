import FlipperZero.Toolbox.Strint

/-!
# Commands of a BadUSB script

A line of a script is a command, or the name of a key. `ducky_parse_line` executes it and returns a
delay or a state of the script. What the script presses and releases is kept; the tables of keys,
the layout and the lights of the keyboard are parameters.
-/

namespace FlipperZero

/-! ### State -/

/-- A key on the USB bus, by its code or by the name of a usage. -/
inductive HidKey where
  | code (key : BitVec 16)
  | keyboardReturn
  | leftAlt
  | leftAltPrintScreen
  | lockNumLock
  | keypad (digit : UInt8)
  | fnGlobe
  deriving DecidableEq

/-- The calls of `BadUsbHidApi` that a line makes. -/
inductive HidCall where
  | kbPress (key : HidKey)
  | kbRelease (key : HidKey)
  | consumerPress (key : HidKey)
  | consumerRelease (key : HidKey)
  | releaseAll
  deriving DecidableEq

/-- The tables of keys, and the light of the number lock after what has been sent. -/
structure DuckyKeys where
  keycodeByName : List UInt8 → BitVec 16
  mediaKeycodeByName : List UInt8 → BitVec 16
  layout : UInt8 → BitVec 16
  numLock : List HidCall → Bool

def scriptStateError : Int := -1
def scriptStateEnd : Int := -2
def scriptStateNextLine : Int := -3
def scriptStateCmdUnknown : Int := -4
def scriptStateStringStart : Int := -5
def scriptStateWaitForBtn : Int := -6

/-- The part of `BadUsbScript` that the commands work on, with the calls that have been made. -/
structure DuckyState where
  defdelay : BitVec 32
  stringdelay : BitVec 32
  defstringdelay : BitVec 32
  repeatCnt : BitVec 32
  keyHoldNb : BitVec 8
  stringPrint : List UInt8
  sent : List HidCall

/-- What a line returns; a line that does not come to its end returns nothing. -/
abbrev DuckyResult := Option (Int × DuckyState)

namespace DuckyState

variable (s : DuckyState)

def send (calls : List HidCall) : DuckyState := { s with sent := s.sent ++ calls }

def tap (key : HidKey) : DuckyState := s.send [.kbPress key, .kbRelease key]

/-- `ducky_error`, whose text is for the screen. -/
def error : DuckyResult := some (scriptStateError, s)

end DuckyState

/-! ### Helpers -/

def duckyGetCommandLen (line : List UInt8) : Nat := (line.idxOf? 32).getD 0

/-- The text behind the command and one more character. -/
def duckyArgument (line : List UInt8) : List UInt8 := line.drop (duckyGetCommandLen line + 1)

/-- `ducky_is_line_end`. A string ends with a zero. -/
def duckyIsLineEnd (chr : UInt8) : Bool := chr = 32 || chr = 0 || chr = 13 || chr = 10

def badusbAsciiToKey (keys : DuckyKeys) (chr : UInt8) : BitVec 16 :=
  if chr < 128 then keys.layout chr else 0

def duckyGetKeycode (keys : DuckyKeys) (param : List UInt8) (acceptChars : Bool) : BitVec 16 :=
  let keycode := keys.keycodeByName param
  if keycode ≠ 0 then keycode
  else if acceptChars && !param.isEmpty then badusbAsciiToKey keys (param.headD 0) &&& 0xFF
  else 0

def duckyGetNumber (param : List UInt8) : Option (BitVec 32) :=
  match strintToUint32 param 10 with
  | .error _        => none
  | .ok (value, _) => some (BitVec.ofNat 32 value)

def duckyNumlockOn (keys : DuckyKeys) (s : DuckyState) : DuckyState :=
  if keys.numLock s.sent then s else s.tap .lockNumLock

/-- The loop of `ducky_altchar`, from the index `i` of 8 bits on, with a bound on its rounds. -/
def duckyAltcharDigits (charcode : List UInt8) :
    Nat → BitVec 8 → Bool → DuckyState → Option (Bool × DuckyState)
  | 0, _, _, _                => none
  | rounds + 1, i, state, s =>
    let chr := charcode.getD i.toNat 0
    if duckyIsLineEnd chr then some (state, s)
    else if chr < 48 ∨ 57 < chr then some (false, s)
    else duckyAltcharDigits charcode rounds (i + 1) true (s.tap (.keypad (chr - 48)))

/-- `ducky_altchar`. The index comes back to zero after 256 characters, so that a loop that has not
ended by then never does. -/
def duckyAltchar (charcode : List UInt8) (s : DuckyState) : Option (Bool × DuckyState) :=
  (duckyAltcharDigits charcode 256 0 false (s.send [.kbPress .leftAlt])).map fun r =>
    (r.1, r.2.send [.kbRelease .leftAlt])

/-- `ducky_altstring`, from the result of the characters before. -/
def duckyAltstring : List UInt8 → Bool → DuckyState → Option (Bool × DuckyState)
  | [], state, s           => some (state, s)
  | chr :: param, state, s =>
    if chr < 32 ∨ 126 < chr then duckyAltstring param state s
    else
      match duckyAltchar (decimalText chr.toNat) s with
      | none            => none
      | some (false, s) => some (false, s)
      | some (true, s)  => duckyAltstring param true s

/-- The characters of `ducky_string`. -/
def duckyStringChars (keys : DuckyKeys) : List UInt8 → DuckyState → DuckyState
  | [], s           => s
  | chr :: param, s =>
    if chr = 10 then duckyStringChars keys param (s.tap .keyboardReturn)
    else
      let keycode := badusbAsciiToKey keys chr
      duckyStringChars keys param (if keycode ≠ 0 then s.tap (.code keycode) else s)

/-! ### Commands -/

/-- `DuckyCmdCallback`, with the parameter of its entry. -/
abbrev DuckyCmdCallback := DuckyKeys → List UInt8 → DuckyState → DuckyResult

def duckyFncDelay : DuckyCmdCallback := fun _ line s =>
  match duckyGetNumber (duckyArgument line) with
  | some delayVal => if delayVal ≠ 0 then some (delayVal.toInt, s) else s.error
  | none          => s.error

def duckyFncDefdelay : DuckyCmdCallback := fun _ line s =>
  match duckyGetNumber (duckyArgument line) with
  | some value => some (0, { s with defdelay := value })
  | none       => s.error

def duckyFncStrdelay : DuckyCmdCallback := fun _ line s =>
  match duckyGetNumber (duckyArgument line) with
  | some value => some (0, { s with stringdelay := value })
  | none       => s.error

def duckyFncDefstrdelay : DuckyCmdCallback := fun _ line s =>
  match duckyGetNumber (duckyArgument line) with
  | some value => some (0, { s with defstringdelay := value })
  | none       => s.error

/-- `ducky_fnc_string`, with the parameter that adds a new line. `ducky_string` always succeeds. -/
def duckyFncString (newLine : Bool) : DuckyCmdCallback := fun keys line s =>
  let text := duckyArgument line ++ if newLine then [10] else []
  let s := { s with stringPrint := text }
  if s.stringdelay = 0 ∧ s.defstringdelay = 0 then
    some (0, { duckyStringChars keys text s with stringdelay := 0 })
  else some (scriptStateStringStart, s)

def duckyFncRepeat : DuckyCmdCallback := fun _ line s =>
  match duckyGetNumber (duckyArgument line) with
  | some value =>
    let s := { s with repeatCnt := value }
    if value = 0 then s.error else some (0, s)
  | none => s.error

def duckyFncSysrq : DuckyCmdCallback := fun keys line s =>
  let key := duckyGetKeycode keys (duckyArgument line) true
  some (0, s.send [.kbPress .leftAltPrintScreen, .kbPress (.code key), .releaseAll])

def duckyFncAltchar : DuckyCmdCallback := fun keys line s =>
  match duckyAltchar (duckyArgument line) (duckyNumlockOn keys s) with
  | none            => none
  | some (state, s) => if state then some (0, s) else s.error

def duckyFncAltstring : DuckyCmdCallback := fun keys line s =>
  match duckyAltstring (duckyArgument line) false (duckyNumlockOn keys s) with
  | none            => none
  | some (state, s) => if state then some (0, s) else s.error

def hidKbMaxKeys : Nat := 6

def duckyFncHold : DuckyCmdCallback := fun keys line s =>
  let key := duckyGetKeycode keys (duckyArgument line) true
  if key = 0 then s.error
  else
    let s := { s with keyHoldNb := s.keyHoldNb + 1 }
    if hidKbMaxKeys - 1 < s.keyHoldNb.toNat then s.error
    else some (0, s.send [.kbPress (.code key)])

def duckyFncRelease : DuckyCmdCallback := fun keys line s =>
  let key := duckyGetKeycode keys (duckyArgument line) true
  if key = 0 then s.error
  else if s.keyHoldNb = 0 then s.error
  else some (0, { s with keyHoldNb := s.keyHoldNb - 1 }.send [.kbRelease (.code key)])

def duckyFncMedia : DuckyCmdCallback := fun keys line s =>
  let key := keys.mediaKeycodeByName (duckyArgument line)
  if key = 0 then s.error
  else some (0, s.send [.consumerPress (.code key), .consumerRelease (.code key)])

def duckyFncGlobe : DuckyCmdCallback := fun keys line s =>
  let key := duckyGetKeycode keys (duckyArgument line) true
  if key = 0 then s.error
  else
    some (0, s.send [.consumerPress .fnGlobe, .kbPress (.code key), .kbRelease (.code key),
      .consumerRelease .fnGlobe])

def duckyFncWaitforbutton : DuckyCmdCallback := fun _ _ s => some (scriptStateWaitForBtn, s)

/-- A command without a callback does nothing. -/
def duckyFncNull : DuckyCmdCallback := fun _ _ s => some (0, s)

/-- The table `ducky_commands`. -/
def duckyCommands : List (List UInt8 × DuckyCmdCallback) :=
  [(ascii "REM".toList, duckyFncNull), (ascii "ID".toList, duckyFncNull),
    (ascii "DELAY".toList, duckyFncDelay), (ascii "STRING".toList, duckyFncString false),
    (ascii "STRINGLN".toList, duckyFncString true),
    (ascii "DEFAULT_DELAY".toList, duckyFncDefdelay),
    (ascii "DEFAULTDELAY".toList, duckyFncDefdelay),
    (ascii "STRINGDELAY".toList, duckyFncStrdelay),
    (ascii "STRING_DELAY".toList, duckyFncStrdelay),
    (ascii "DEFAULT_STRING_DELAY".toList, duckyFncDefstrdelay),
    (ascii "DEFAULTSTRINGDELAY".toList, duckyFncDefstrdelay),
    (ascii "REPEAT".toList, duckyFncRepeat), (ascii "SYSRQ".toList, duckyFncSysrq),
    (ascii "ALTCHAR".toList, duckyFncAltchar), (ascii "ALTSTRING".toList, duckyFncAltstring),
    (ascii "ALTCODE".toList, duckyFncAltstring), (ascii "HOLD".toList, duckyFncHold),
    (ascii "RELEASE".toList, duckyFncRelease),
    (ascii "WAIT_FOR_BUTTON_PRESS".toList, duckyFncWaitforbutton),
    (ascii "MEDIA".toList, duckyFncMedia), (ascii "GLOBE".toList, duckyFncGlobe)]

/-- The command that the first word of a line names. -/
def duckyFindCmd (line : List UInt8) : Option DuckyCmdCallback :=
  duckyCommands.lookup (line.takeWhile (· ≠ 32))

def duckyExecuteCmd (keys : DuckyKeys) (line : List UInt8) (s : DuckyState) : DuckyResult :=
  match duckyFindCmd line with
  | some callback => callback keys line s
  | none          => some (scriptStateCmdUnknown, s)

/-- `ducky_parse_line`. The commands see the line up to its first zero. -/
def duckyParseLine (keys : DuckyKeys) (line : List UInt8) (s : DuckyState) : DuckyResult :=
  let lineTmp := line.takeWhile (· ≠ 0)
  if line = [] then some (scriptStateNextLine, s)
  else
    match duckyExecuteCmd keys lineTmp s with
    | none => none
    | some (result, s) =>
      if result ≠ scriptStateCmdUnknown then some (result, s)
      else
        let key := duckyGetKeycode keys lineTmp false
        if key = 0 then s.error
        else
          let offset := duckyGetCommandLen lineTmp + 1
          let key :=
            if key &&& 0xFF00 ≠ 0 ∧ offset ≠ 1 ∧ offset < line.length then
              key ||| duckyGetKeycode keys (lineTmp.drop offset) true
            else key
          some (0, s.tap (.code key))

end FlipperZero
