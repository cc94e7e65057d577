import FlipperZero.Foundation.Loop

/-!
# The common infrared decoder

Samples of alternating level are collected in an array of six timings. The decoder waits for
the preamble, decodes bits from marks and spaces and, for protocols that have one, looks for a
repeat sequence. What differs from protocol to protocol is in `InfraredCommonProtocolSpec`.

The decoder of the source is one record. It is split here by who touches it: the bit decoders
see `InfraredDatabits`, the interpreters `InfraredPayload`.
-/

namespace FlipperZero

open Foundation

inductive InfraredProtocol where
  | unknown
  | nec
  | necext
  | nec42
  | nec42ext
  | samsung32
  | rc6
  | rc5
  | rc5x
  | sirc
  | sirc15
  | sirc20
  | kaseikyo
  | rca
  | pioneer
  deriving DecidableEq, Repr

structure InfraredMessage where
  protocol : InfraredProtocol
  address : Nat
  command : Nat
  repeat_ : Bool
  deriving DecidableEq, Repr

inductive InfraredStatus where
  | error
  | ok
  | done
  | ready
  deriving DecidableEq, Repr

structure InfraredTimings where
  minSplitTime : Nat
  silenceTime : Nat
  preambleMark : Nat
  preambleSpace : Nat
  bit1Mark : Nat
  bit1Space : Nat := 0
  bit0Mark : Nat := 0
  bit0Space : Nat := 0
  preambleTolerance : Nat
  bitTolerance : Nat

/-- `MATCH_TIMING`. Every nominal time exceeds its tolerance, so that the subtraction of the
source does not wrap; it compares preambles as floats, exactly for these small bounds. -/
def matchTiming (x v delta : Nat) : Bool := x < v + delta && v - delta < x

/-! ### The record of the decoder -/

/-- The bits collected so far. -/
structure InfraredDatabits where
  switchDetect : Bool
  databitCnt : Nat
  data : Nat → Nat

/-- What an interpreter reads and writes. `toggle` is the context of RC5 and RC6. -/
structure InfraredPayload extends InfraredDatabits where
  message : InfraredMessage
  toggle : Bool

inductive InfraredCommonStateDecoder where
  | waitPreamble
  | decode
  | processRepeat
  deriving DecidableEq, Repr

/-- `InfraredCommonDecoder`. The list holds the first `timings_cnt` entries of the array, the
only ones that are ever read. -/
structure InfraredCommonDecoder extends InfraredPayload where
  timings : List Nat
  state : InfraredCommonStateDecoder
  level : Bool

/-- The entries of the array `timings`. -/
def infraredTimingsSize : Nat := 6

/-- What can go wrong in a call. -/
inductive InfraredFault where
  /-- A sample is written behind the array `timings`. -/
  | timingsOverflow
  /-- `furi_check(decoder->timings_cnt <= sizeof(decoder->timings))`. -/
  | timingsCheck
  /-- `furi_check(decoder->databit_cnt <= decoder->protocol->databit_len[0])`. -/
  | databitCheck
  /-- The loop over the states of the decoder does not end. -/
  | endless
  deriving DecidableEq, Repr

/-! ### Collecting bits -/

def accumulateLsb (d : InfraredDatabits) (bit : Bool) : InfraredDatabits :=
  let index := d.databitCnt / 8
  let shift := d.databitCnt % 8
  let byte := if shift = 0 then 0 else d.data index
  { d with
    databitCnt := d.databitCnt + 1
    data := fun i => if i = index then (if bit then byte ||| 1 <<< shift else byte) else d.data i }

@[simp] lemma accumulateLsb_databitCnt (d : InfraredDatabits) (bit : Bool) :
    (accumulateLsb d bit).databitCnt = d.databitCnt + 1 := rfl

/-- `infrared_common_decode_pdwm`: pulse distance and pulse width modulation. -/
def infraredCommonDecodePdwm (timings : InfraredTimings) (d : InfraredDatabits) (level : Bool)
    (timing : Nat) : InfraredStatus × InfraredDatabits :=
  let analyzeTiming := level ^^ (timings.bit1Mark == timings.bit0Mark)
  let bit1 := if level then timings.bit1Mark else timings.bit1Space
  let bit0 := if level then timings.bit0Mark else timings.bit0Space
  let noInfoTiming :=
    if timings.bit1Mark = timings.bit0Mark then timings.bit1Mark else timings.bit1Space
  if analyzeTiming then
    if matchTiming timing bit1 timings.bitTolerance then (.ok, accumulateLsb d true)
    else if matchTiming timing bit0 timings.bitTolerance then (.ok, accumulateLsb d false)
    else (.error, d)
  else if matchTiming timing noInfoTiming timings.bitTolerance then (.ok, d)
  else (.error, d)

/-- `infrared_common_decode_manchester`, with `databit_len[0]` as `longest`. -/
def infraredCommonDecodeManchester (timings : InfraredTimings) (startFromSpace : Bool)
    (longest : Nat) (d : InfraredDatabits) (level : Bool) (timing : Nat) :
    InfraredStatus × InfraredDatabits :=
  let singleTiming := matchTiming timing timings.bit1Mark timings.bitTolerance
  let doubleTiming := matchTiming timing (2 * timings.bit1Mark) timings.bitTolerance
  if !singleTiming && !doubleTiming then (.error, d)
  else
    -- the start from a space fakes the middle of a time quant
    let d := if startFromSpace && d.databitCnt = 0
      then accumulateLsb { d with switchDetect := true } false else d
    if !d.switchDetect && doubleTiming then (.error, d)
    else
      let d := { d with switchDetect := !d.switchDetect || !singleTiming }
      if d.switchDetect then
        if longest = d.databitCnt then (.error, d) else (.ok, accumulateLsb d level)
      else (.ok, d)

/-! ### Protocols -/

/-- The part of `InfraredCommonProtocolSpec` that the decoder uses. `databitLen` holds the
entries of `databit_len` before the first zero, the first and longest one apart. -/
structure InfraredDecoderSpec where
  timings : InfraredTimings
  longest : Nat
  shorter : List Nat
  decode : InfraredDatabits → Bool → Nat → InfraredStatus × InfraredDatabits
  decodeRepeat : Option (List Nat → InfraredStatus × List Nat)
  interpret : InfraredPayload → Bool × InfraredPayload

/-- The lengths in `databit_len`. -/
def InfraredDecoderSpec.databitLen (spec : InfraredDecoderSpec) : List Nat :=
  spec.longest :: spec.shorter

variable (spec : InfraredDecoderSpec)

/-! ### Decoding -/

/-- The level of the oldest of `cnt` samples when the newest has the level `level`; when there
is none, the level that alternates with it. -/
def infraredFrontLevel (level : Bool) (cnt : Nat) : Bool := (level.toNat + cnt + 1) % 2 = 1

/-- The level of the oldest sample. -/
def InfraredCommonDecoder.frontLevel (d : InfraredCommonDecoder) : Bool :=
  infraredFrontLevel d.level d.timings.length

/-- The search of `infrared_check_preamble` for a pair of timings that match the preamble. -/
def infraredFindPreamble (timings : InfraredTimings) : List Nat → Bool × List Nat
  | mark :: space :: rest =>
    if matchTiming mark timings.preambleMark timings.preambleTolerance &&
        matchTiming space timings.preambleSpace timings.preambleTolerance then (true, rest)
    else infraredFindPreamble timings rest
  | rest => (false, rest)

def infraredCheckPreamble (d : InfraredCommonDecoder) : Bool × InfraredCommonDecoder :=
  if d.timings = [] then (false, d)
  else
    -- align to start at mark timing
    let aligned := if d.frontLevel then d.timings else d.timings.drop 1
    if spec.timings.preambleMark = 0 then (true, { d with timings := aligned })
    else
      let found := infraredFindPreamble spec.timings aligned
      (found.1, { d with timings := found.2 })

/-- The loop of `infrared_common_decode_bits` over the timings; `level` is the level of the
decoder. -/
def infraredCommonDecodeTimings (level : Bool) (d : InfraredDatabits) :
    List Nat → Except InfraredFault (InfraredStatus × InfraredDatabits × List Nat)
  | [] => .ok (.ok, d, [])
  | timing :: rest =>
    let timings := timing :: rest
    let front := infraredFrontLevel level timings.length
    let splits := spec.timings.minSplitTime ≠ 0 && !front
    -- a long low timing: ready for any of the protocol modifications
    if splits && spec.timings.minSplitTime < timing && spec.databitLen.contains d.databitCnt then
      .ok (.ready, d, timings)
    -- a short low timing after the longest protocol
    else if splits && timing ≤ spec.timings.minSplitTime && spec.longest = d.databitCnt then
      .ok (.error, d, timings)
    else
      let decoded := spec.decode d front timing
      let d := decoded.2
      if spec.longest < d.databitCnt then .error .databitCheck
      else if decoded.1 = .error then .ok (.error, d, timings)
      else if front && spec.longest = d.databitCnt && spec.timings.minSplitTime = 0 then
        .ok (.ready, d, rest)
      else infraredCommonDecodeTimings level d rest

def infraredCommonDecodeBits (d : InfraredCommonDecoder) :
    Except InfraredFault (InfraredStatus × InfraredCommonDecoder) :=
  (infraredCommonDecodeTimings spec d.level d.toInfraredDatabits d.timings).map
    fun (status, bits, rest) => (status, { d with toInfraredDatabits := bits, timings := rest })

def infraredCommonDecoderCheckReady (d : InfraredCommonDecoder) :
    Option InfraredMessage × InfraredCommonDecoder :=
  if spec.databitLen.contains d.databitCnt then
    let interpreted := spec.interpret d.toInfraredPayload
    let d := { d with toInfraredPayload := interpreted.2 }
    if interpreted.1 then
      (some d.message,
        { d with
          databitCnt := 0
          state := if spec.decodeRepeat.isSome then .processRepeat else .waitPreamble })
    else (none, d)
  else (none, d)

def infraredCommonDecoderResetState (d : InfraredCommonDecoder) : InfraredCommonDecoder :=
  { d with
    state := .waitPreamble
    databitCnt := 0
    switchDetect := false
    message := { d.message with protocol := .unknown }
    timings := if spec.timings.preambleMark = 0 then d.timings.drop 1 else d.timings }

def infraredCommonDecoderReset (d : InfraredCommonDecoder) : InfraredCommonDecoder :=
  { infraredCommonDecoderResetState spec d with timings := [] }

/-- `infrared_common_decoder_alloc`: the record is cleared. -/
def infraredCommonDecoderAlloc : InfraredCommonDecoder where
  switchDetect := false
  databitCnt := 0
  data := fun _ => 0
  message := { protocol := .nec, address := 0, command := 0, repeat_ := false }
  toggle := false
  timings := []
  state := .waitPreamble
  level := true

/-- What a call of `infrared_common_decode` leaves: the message, if any, and the decoder. -/
abbrev InfraredDecodeResult := Except InfraredFault (Option InfraredMessage × InfraredCommonDecoder)

/-- One round of the loop over the states in `infrared_common_decode`. The pointer `message` is
null or points to the message of the decoder, so that a Boolean `found` stands for it. -/
def infraredCommonDecodeRound :
    Bool × InfraredCommonDecoder → Round (Bool × InfraredCommonDecoder) InfraredDecodeResult
  | (found, d) =>
    let leave (found : Bool) (d : InfraredCommonDecoder) :=
      .leave (.ok (if found then some d.message else none, d))
    match d.state with
    | .waitPreamble =>
      match infraredCheckPreamble spec d with
      | (true, d) => .again (found,
          { d with state := .decode, databitCnt := 0, switchDetect := false })
      | (false, d) => leave found d
    | .decode =>
      match infraredCommonDecodeBits spec d with
      | .error fault => .leave (.error fault)
      | .ok (.ready, d) =>
        match infraredCommonDecoderCheckReady spec d with
        | (some _, d) => .again (true, d)
        | (none, d) =>
          -- can't decode the largest protocol: begin decoding from start
          if spec.longest = d.databitCnt then leave false { d with state := .waitPreamble }
          else leave false d
      | .ok (.error, d) => .again (found, infraredCommonDecoderResetState spec d)
      | .ok (_, d) => leave found d
    | .processRepeat =>
      match spec.decodeRepeat with
      | none => leave found d
      | some decodeRepeat =>
        match decodeRepeat d.timings with
        | (.error, timings) =>
          .again (found, infraredCommonDecoderResetState spec { d with timings := timings })
        | (.ready, timings) =>
          leave true
            { d with timings := timings, message := { d.message with repeat_ := true } }
        | (_, timings) => leave found { d with timings := timings }

/-- More rounds than the loop of `infrared_common_decode` ever takes. -/
def infraredDecodeRounds : Nat := 24

/-- The part of `infrared_common_decode` after the reset: the sample is stored, and the loop
runs. -/
def infraredStoreAndDecode (d : InfraredCommonDecoder) (level : Bool) (duration : Nat) :
    InfraredDecodeResult :=
  if infraredTimingsSize ≤ d.timings.length then .error .timingsOverflow
  else
    let d := { d with level := level, timings := d.timings ++ [duration] }
    if 4 * infraredTimingsSize < d.timings.length then .error .timingsCheck
    else (loop (infraredCommonDecodeRound spec) infraredDecodeRounds (false, d)).getD
      (.error .endless)

/-- `infrared_common_decode`. A sample of the same level as the one before resets the decoder. -/
def infraredCommonDecode (d : InfraredCommonDecoder) (level : Bool) (duration : Nat) :
    InfraredDecodeResult :=
  infraredStoreAndDecode spec (if d.level = level then infraredCommonDecoderReset spec d else d)
    level duration

end FlipperZero
