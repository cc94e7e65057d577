import FlipperZero.Foundation.Bits
import FlipperZero.Infrared.CommonDecoder

/-!
# The common infrared encoder

A frame starts with silence, goes on with the preamble and the bits of the message, space and
mark in turn, and ends with status `done`. What comes after it is a repeat sequence, for the
protocols that have one, or the next frame.
-/

namespace FlipperZero

open Foundation

/-- A timing together with its level. -/
structure InfraredSample where
  level : Bool
  duration : Nat
  deriving DecidableEq, Repr

inductive InfraredCommonStateEncoder where
  | silence
  | preamble
  | encode
  | encodeRepeat
  deriving DecidableEq, Repr

/-- `InfraredCommonEncoder`. `toggleBit` belongs to the encoders of RC5 and RC6. -/
structure InfraredCommonEncoder where
  state : InfraredCommonStateEncoder
  switchDetect : Bool
  bitsToEncode : Nat
  bitsEncoded : Nat
  timingsSum : Nat
  timingsEncoded : Nat
  data : Nat → Nat
  toggleBit : Bool

/-- What an encoder returns: a status, and the timing and its level through pointers. -/
abbrev InfraredEncodeResult := InfraredStatus × InfraredSample × InfraredCommonEncoder

/-- The type `InfraredCommonEncode` of the encoders. -/
abbrev InfraredEncode := InfraredCommonEncoder → InfraredEncodeResult

structure InfraredCommonProtocolSpec extends InfraredDecoderSpec where
  encode : InfraredEncode
  encodeRepeat : Option InfraredEncode

/-! ### Bits -/

def InfraredCommonEncoder.logicValue (e : InfraredCommonEncoder) : Bool :=
  e.data (e.bitsEncoded / 8) &&& 1 <<< (e.bitsEncoded % 8) != 0

def infraredCommonEncodeManchester (timings : InfraredTimings) (e : InfraredCommonEncoder) : InfraredEncodeResult :=
  let evenTiming : Bool := e.timingsEncoded % 2 = 0
  let level := evenTiming ^^ e.logicValue
  -- the last space is not encoded
  let lastMark := level && e.bitsEncoded + 1 = e.bitsToEncode
  let e := if evenTiming || lastMark then { e with bitsEncoded := e.bitsEncoded + 1 } else e
  (.ok, { level := level, duration := timings.bit1Mark }, e)

def infraredCommonEncodePdwm (timings : InfraredTimings) (e : InfraredCommonEncoder) : InfraredEncodeResult :=
  let pwm := timings.bit1Space = timings.bit0Space
  let mark := if e.logicValue then timings.bit1Mark else timings.bit0Mark
  let space := if e.logicValue then timings.bit1Space else timings.bit0Space
  -- start encoding from space
  if e.timingsEncoded % 2 = 1 then
    (.ok, { level := true, duration := mark },
      if pwm then { e with bitsEncoded := e.bitsEncoded + 1 } else e)
  else
    (.ok, { level := false, duration := space },
      if pwm then e else { e with bitsEncoded := e.bitsEncoded + 1 })

/-! ### Frames -/

variable (spec : InfraredCommonProtocolSpec)

def infraredCommonEncodeBits (e : InfraredCommonEncoder) : InfraredEncodeResult :=
  let encoded := spec.encode e
  let sample := encoded.2.1
  let e := { encoded.2.2 with
    timingsEncoded := encoded.2.2.timingsEncoded + 1
    timingsSum := encoded.2.2.timingsSum + sample.duration }
  (if e.bitsEncoded = e.bitsToEncode && sample.level then .done else encoded.1, sample, e)

/-- The state `InfraredCommonEncoderStateEncode` of `infrared_common_encode`. -/
def infraredCommonEncodeEncode (e : InfraredCommonEncoder) : InfraredEncodeResult :=
  match infraredCommonEncodeBits spec e with
  | (.done, sample, e) =>
    (.done, sample,
      if spec.encodeRepeat.isSome then { e with state := .encodeRepeat }
      else { e with
        timingsEncoded := 0
        timingsSum := 0
        bitsEncoded := 0
        switchDetect := false
        state := .silence })
  | other => other

def infraredCommonEncode (e : InfraredCommonEncoder) : InfraredEncodeResult :=
  match e.state with
  | .silence =>
    (.ok, { level := false, duration := spec.timings.silenceTime },
      { e with state := .preamble, timingsEncoded := e.timingsEncoded + 1, timingsSum := 0 })
  | .preamble =>
    if spec.timings.preambleMark ≠ 0 then
      let sample : InfraredSample :=
        if e.timingsEncoded = 1 then { level := true, duration := spec.timings.preambleMark }
        else { level := false, duration := spec.timings.preambleSpace }
      (.ok, sample,
        { e with
          state := if e.timingsEncoded = 1 then .preamble else .encode
          timingsEncoded := e.timingsEncoded + 1
          timingsSum := e.timingsSum + sample.duration })
    else infraredCommonEncodeEncode spec { e with state := .encode }
  | .encode => infraredCommonEncodeEncode spec e
  | .encodeRepeat =>
    match spec.encodeRepeat with
    | some encodeRepeat => encodeRepeat e
    | none => (.ok, { level := false, duration := 0 }, e)

/-- `infrared_common_encoder_reset`: the bytes of the longest message are cleared. -/
def infraredCommonEncoderReset (e : InfraredCommonEncoder) : InfraredCommonEncoder :=
  let bytesToClear := spec.longest / 8 + if spec.longest % 8 = 0 then 0 else 1
  { e with
    timingsEncoded := 0
    timingsSum := 0
    bitsEncoded := 0
    state := .silence
    switchDetect := false
    data := fun i => if i < bytesToClear then 0 else e.data i }

/-- `infrared_common_encoder_alloc`: the record is cleared. -/
def infraredCommonEncoderAlloc : InfraredCommonEncoder where
  state := .silence
  switchDetect := false
  bitsToEncode := 0
  bitsEncoded := 0
  timingsSum := 0
  timingsEncoded := 0
  data := fun _ => 0
  toggleBit := false

end FlipperZero
