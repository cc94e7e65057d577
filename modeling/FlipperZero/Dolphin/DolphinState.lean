import FlipperZero.Foundation.Mealy

/-!
# The state of the dolphin

`dolphin_deed.c` and `dolphin_state.c`. Deeds earn experience (`icounter`), up to a limit a day for
each app; the counter stops at every level threshold until the level is increased.
-/

namespace FlipperZero.Dolphin

open Foundation

/-! ### Deeds -/

inductive DolphinApp where
  | subGhz | rfid | nfc | ir | ibutton | badusb | plugin
deriving DecidableEq, Repr

inductive DolphinDeed where
  | subGhzReceiverInfo | subGhzSave | subGhzRawRec | subGhzAddManually | subGhzSend
  | subGhzFrequencyAnalyzer
  | rfidRead | rfidReadSuccess | rfidSave | rfidEmulate | rfidAdd
  | nfcRead | nfcReadSuccess | nfcSave | nfcDetectReader | nfcEmulate | nfcMfcAdd | nfcAddSave
  | nfcAddEmulate
  | irSend | irLearnSuccess | irSave
  | ibuttonRead | ibuttonReadSuccess | ibuttonSave | ibuttonEmulate | ibuttonAdd
  | badUsbPlayScript
  | u2fAuthorized | gpioUartBridge
  | pluginStart | pluginGameStart | pluginGameWin
deriving DecidableEq, Repr

/-- The deeds behind `DolphinDeedMAX`. -/
inductive DolphinTestDeed where
  | testLeft | testRight
deriving DecidableEq, Repr

structure DolphinDeedWeight where
  icounter : UInt8
  app      : DolphinApp

def dolphinDeedWeights : DolphinDeed → DolphinDeedWeight
  | .subGhzReceiverInfo      => ⟨5, .subGhz⟩
  | .subGhzSave              => ⟨15, .subGhz⟩
  | .subGhzRawRec            => ⟨5, .subGhz⟩
  | .subGhzAddManually       => ⟨10, .subGhz⟩
  | .subGhzSend              => ⟨10, .subGhz⟩
  | .subGhzFrequencyAnalyzer => ⟨5, .subGhz⟩
  | .rfidRead                => ⟨5, .rfid⟩
  | .rfidReadSuccess         => ⟨15, .rfid⟩
  | .rfidSave                => ⟨15, .rfid⟩
  | .rfidEmulate             => ⟨10, .rfid⟩
  | .rfidAdd                 => ⟨10, .rfid⟩
  | .nfcRead                 => ⟨5, .nfc⟩
  | .nfcReadSuccess          => ⟨15, .nfc⟩
  | .nfcSave                 => ⟨5, .nfc⟩
  | .nfcDetectReader         => ⟨5, .nfc⟩
  | .nfcEmulate              => ⟨10, .nfc⟩
  | .nfcMfcAdd               => ⟨10, .nfc⟩
  | .nfcAddSave              => ⟨5, .nfc⟩
  | .nfcAddEmulate           => ⟨5, .nfc⟩
  | .irSend                  => ⟨5, .ir⟩
  | .irLearnSuccess          => ⟨15, .ir⟩
  | .irSave                  => ⟨15, .ir⟩
  | .ibuttonRead             => ⟨5, .ibutton⟩
  | .ibuttonReadSuccess      => ⟨15, .ibutton⟩
  | .ibuttonSave             => ⟨15, .ibutton⟩
  | .ibuttonEmulate          => ⟨10, .ibutton⟩
  | .ibuttonAdd              => ⟨10, .ibutton⟩
  | .badUsbPlayScript        => ⟨15, .badusb⟩
  | .u2fAuthorized           => ⟨15, .plugin⟩
  | .gpioUartBridge          => ⟨5, .plugin⟩
  | .pluginStart             => ⟨5, .plugin⟩
  | .pluginGameStart         => ⟨5, .plugin⟩
  | .pluginGameWin           => ⟨20, .plugin⟩

def dolphinDeedLimits : DolphinApp → UInt8
  | .plugin => 200
  | _       => 100

def dolphinDeedGetWeight (deed : DolphinDeed) : UInt8 := (dolphinDeedWeights deed).icounter

def dolphinDeedGetApp (deed : DolphinDeed) : DolphinApp := (dolphinDeedWeights deed).app

def dolphinDeedGetAppLimit (app : DolphinApp) : UInt8 := dolphinDeedLimits app

/-! ### Levels -/

def dolphinLevels : List UInt32 :=
  [500, 1250, 2250, 3500, 5000, 6750, 8750, 11000, 13500, 16250, 19250, 22500, 26000, 29750, 33750,
    38000, 42500, 47250, 52250, 58250, 65250, 73250, 82250, 92250, 103250, 115250, 128250, 142250,
    157250]

def dolphinStateIsLevelup (icounter : UInt32) : Bool := dolphinLevels.any (icounter == ·)

def dolphinGetLevel (icounter : UInt32) : Nat := dolphinLevels.findIdx (icounter ≤ ·) + 1

def dolphinStateXpAboveLastLevelup (icounter : UInt32) : UInt32 :=
  let levelIdx := dolphinGetLevel icounter - 1
  if levelIdx > 0 then
    match dolphinLevels[levelIdx - 1]? with
    | some level => icounter - level
    | none       => icounter
  else icounter

def dolphinStateXpToLevelup (icounter : UInt32) : UInt32 :=
  match dolphinLevels[dolphinGetLevel icounter - 1]? with
  | some level => level - icounter
  | none       => 4294967295

/-! ### The state -/

def butthurtMax : Int := 14
def butthurtMin : Int := 0

structure DolphinState where
  icounterDailyLimit : DolphinApp → UInt8
  butthurtDailyLimit : UInt8
  icounter           : UInt32
  butthurt           : Int
  timestamp          : UInt64
  dirty              : Bool

/-- The state that is started from when none has been saved. -/
def dolphinStateReset : DolphinState where
  icounterDailyLimit := fun _ => 0
  butthurtDailyLimit := 0
  icounter := 0
  butthurt := 0
  timestamp := 0
  dirty := true

/-- The macro `CLAMP`. -/
def clamp (x upper lower : Int) : Int := min upper (max x lower)

/-- An integer stored in an `int8_t`. -/
def toInt8 (n : Int) : Int := if n % 256 < 128 then n % 256 else n % 256 - 256

/-- An integer stored in a `uint8_t`. -/
def toUInt8 (n : Int) : UInt8 := UInt8.ofNat (n % 256).toNat

/-- The weight of a deed after the limit of the day. -/
def deedWeight (s : DolphinState) (deed : DolphinDeed) : UInt8 :=
  let app := dolphinDeedGetApp deed
  let weightLimit := toInt8 ((dolphinDeedGetAppLimit app).toNat - (s.icounterDailyLimit app).toNat)
  toUInt8 (clamp (dolphinDeedGetWeight deed).toNat weightLimit 0)

/-- How many of the four deductions of a day are due. -/
def butthurtIcounterLevel (butthurtDailyLimit : UInt8) : UInt8 :=
  butthurtDailyLimit / 15 + if butthurtDailyLimit % 15 = 0 then 0 else 1

def dolphinStateGrant (s : DolphinState) (deed : DolphinDeed) : UInt8 × DolphinState :=
  let app := dolphinDeedGetApp deed
  let deedWeight := deedWeight s deed
  let xpToLevelup := dolphinStateXpToLevelup s.icounter
  if xpToLevelup = 0 then (deedWeight, s)
  else
    let deedWeight := (min xpToLevelup deedWeight.toUInt32).toUInt8
    (deedWeight, { s with
      icounter := s.icounter + deedWeight.toUInt32
      icounterDailyLimit := Function.update s.icounterDailyLimit app
        (s.icounterDailyLimit app + deedWeight) })

/-- The change of `butthurt` that goes with a deed. -/
def dolphinStateCalm (s : DolphinState) (deedWeight : UInt8) : DolphinState :=
  let old := butthurtIcounterLevel s.butthurtDailyLimit
  let butthurtDailyLimit := toUInt8 (clamp (s.butthurtDailyLimit.toNat + deedWeight.toNat) 46 0)
  let new := butthurtIcounterLevel butthurtDailyLimit
  let butthurt := clamp (s.butthurt - if old ≠ new then 1 else 0) butthurtMax butthurtMin
  { s with
    butthurtDailyLimit := butthurtDailyLimit
    butthurt := if butthurt ≥ 7 then butthurtMin else butthurt }

def dolphinStateOnDeed (s : DolphinState) (deed : DolphinDeed) (now : UInt64) : DolphinState :=
  let (deedWeight, s) := dolphinStateGrant s deed
  { dolphinStateCalm s deedWeight with timestamp := now, dirty := true }

/-- `dolphin_state_on_deed` for the test deeds. -/
def dolphinStateOnTestDeed (s : DolphinState) : DolphinTestDeed → UInt64 → DolphinState
  | .testLeft, now => { s with
      butthurt := clamp (s.butthurt + 1) butthurtMax butthurtMin
      icounter := if s.icounter > 0 then s.icounter - 1 else s.icounter
      timestamp := now
      dirty := true }
  | .testRight, now => { s with
      butthurt := butthurtMin
      icounter := if s.icounter < 4294967295 then s.icounter + 1 else s.icounter
      timestamp := now
      dirty := true }

def dolphinStateButthurted (s : DolphinState) (now : UInt64) : DolphinState :=
  if s.butthurt < butthurtMax then
    { s with butthurt := s.butthurt + 1, timestamp := now, dirty := true }
  else s

/-- The counter steps over the threshold it has stopped at. -/
def dolphinStateIncreaseLevel (s : DolphinState) : DolphinState :=
  { s with icounter := s.icounter + 1, dirty := true }

def dolphinStateClearLimits (s : DolphinState) : DolphinState :=
  { s with icounterDailyLimit := fun _ => 0, butthurtDailyLimit := 0, dirty := true }

/-- What the service does with its state: the deeds and the level-ups of its queue, and its two
timers. -/
inductive DolphinEvent where
  | deed (deed : DolphinDeed) (now : UInt64)
  | testDeed (deed : DolphinTestDeed) (now : UInt64)
  | level
  | butthurt (now : UInt64)
  | clearLimits

/-- The service, with whether the assertion of the step holds. -/
def dolphin : Mealy DolphinState DolphinEvent Bool where
  step s
    | .deed deed now     => (true, dolphinStateOnDeed s deed now)
    | .testDeed deed now => (true, dolphinStateOnTestDeed s deed now)
    | .level             => (dolphinStateIsLevelup s.icounter, dolphinStateIncreaseLevel s)
    | .butthurt now      => (true, dolphinStateButthurted s now)
    | .clearLimits       => (true, dolphinStateClearLimits s)

end FlipperZero.Dolphin
