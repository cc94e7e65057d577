import FlipperZero.Infrared.CommonEncoder

/-!
# The infrared protocols

The eight protocols of the common decoder, each with its interpreter, its repeat sequence, the
packing of its messages and its specification, and the table over all of them.
-/

namespace FlipperZero

open Foundation

/-- The lengths in `InfraredProtocolVariant`, in bits. -/
structure InfraredProtocolVariant where
  addressLength : Nat
  commandLength : Nat

/-- `reverse`: the bits of a byte in reverse order. -/
def reverseByte (value : Nat) : Nat :=
  (List.range 8).foldl (fun r i => if value.testBit i then r ||| 1 <<< (7 - i) else r) 0

/-- Accept a message that is not a repetition. -/
def InfraredPayload.accept (d : InfraredPayload) (protocol : InfraredProtocol)
    (address command : Nat) : Bool × InfraredPayload :=
  (true, { d with message := ⟨protocol, address, command, false⟩ })

/-- Accept a message that repeats the one before when the toggle bit has not changed. -/
def InfraredPayload.acceptToggle (d : InfraredPayload) (protocol : InfraredProtocol)
    (address command : Nat) (toggle : Bool) : Bool × InfraredPayload :=
  let same := d.message.address = address && d.message.command = command &&
    d.message.protocol = protocol
  (true, { d with message := ⟨protocol, address, command, same && toggle == d.toggle⟩
                  toggle := toggle })

/-- A repeat sequence of two timings and the timings of a bit, as `decode_repeat` compares it. -/
def matchRepeat (timings : InfraredTimings) (pauseMin pauseMax mark space : Nat)
    (bits : List Nat) : List Nat → Bool
  | pause :: t1 :: t2 :: rest =>
    pauseMin < pause && pause < pauseMax && matchTiming t1 mark timings.preambleTolerance &&
      matchTiming t2 space timings.preambleTolerance &&
      (rest.zip bits).all fun (t, v) => matchTiming t v timings.bitTolerance
  | _ => false

/-- A `decode_repeat`: it waits for all timings of the sequence. -/
def decodeRepeatSequence (timings : InfraredTimings) (pauseMin pauseMax mark space : Nat)
    (bits samples : List Nat) : InfraredStatus × List Nat :=
  if samples.length < 3 + bits.length then (.ok, samples)
  else if matchRepeat timings pauseMin pauseMax mark space bits samples then (.ready, [])
  else (.error, samples)

/-- An `encode_repeat` that goes round a table of timings after the frame; `first` is the
pause before the first repetition. -/
def encodeRepeatSequence (first : Nat) (repeatTimings : List Nat) (upToRepeat : Nat)
    (e : InfraredCommonEncoder) : InfraredEncodeResult :=
  let repeatCnt := e.timingsEncoded - upToRepeat
  let duration := if 0 < repeatCnt then repeatTimings.getD (repeatCnt % repeatTimings.length) 0
    else first
  (if (repeatCnt + 1) % repeatTimings.length = 0 then .done else .ok,
    { level := repeatCnt % 2 = 1, duration := duration },
    { e with timingsEncoded := e.timingsEncoded + 1 })

/-- An `encode_repeat` that starts the frame again after a pause. -/
def encodeRepeatFrame (pause : InfraredCommonEncoder → Nat) (e : InfraredCommonEncoder) :
    InfraredEncodeResult :=
  (.ok, { level := false, duration := pause e },
    { e with timingsSum := 0, timingsEncoded := 1, bitsEncoded := 0, state := .preamble })

/-- An `encode` that is done when the last bit ends with a space. -/
def encodeUntilSpace (spec : InfraredCommonProtocolSpec) (e : InfraredCommonEncoder) : InfraredEncodeResult :=
  match infraredCommonEncode spec e with
  | (.ok, sample, e) =>
    if e.bitsEncoded = e.bitsToEncode then (.done, sample, { e with state := .encodeRepeat })
    else (.ok, sample, e)
  | other => other

/-! ### NEC -/

/-- The timings of `infrared_protocol_nec`. -/
def infraredTimingsNec : InfraredTimings where
  minSplitTime := 4000
  silenceTime := 110000
  preambleMark := 9000
  preambleSpace := 4500
  bit1Mark := 560
  bit1Space := 1690
  bit0Mark := 560
  bit0Space := 560
  preambleTolerance := 200
  bitTolerance := 120

def infraredDecoderNecInterpret (d : InfraredPayload) : Bool × InfraredPayload :=
  if d.databitCnt = 32 then
    let address := d.data 0
    let addressInverse := d.data 1
    let command := d.data 2
    let commandInverse := d.data 3
    if command = complement 8 commandInverse && address = complement 8 addressInverse then
      d.accept .nec address command
    else d.accept .necext (d.data 0 ||| d.data 1 <<< 8) (d.data 2 ||| d.data 3 <<< 8)
  else if d.databitCnt = 42 then
    let data1 := loadWord 4 d.data 0
    let data2 := loadWord 2 d.data 4
    let address := data1 &&& mask 13
    let addressInverse := data1 >>> 13 &&& mask 13
    let command := data1 >>> 26 &&& mask 6 ||| (data2 &&& mask 2) <<< 6
    let commandInverse := data2 >>> 2 &&& mask 8
    if address = complement 13 addressInverse && command = complement 8 commandInverse then
      d.accept .nec42 address command
    else d.accept .nec42ext (address ||| addressInverse <<< 13) (command ||| commandInverse <<< 8)
  else (false, d)

def infraredDecoderNecDecodeRepeat : List Nat → InfraredStatus × List Nat :=
  decodeRepeatSequence infraredTimingsNec 4000 150000 9000 2250 [infraredTimingsNec.bit1Mark]

def infraredEncoderNecEncodeRepeat (e : InfraredCommonEncoder) : InfraredEncodeResult :=
  encodeRepeatSequence (110000 - e.timingsSum) [110000 - 9000 - 2250 - 560, 9000, 2250, 560]
    (1 + 2 + e.bitsToEncode * 2 + 1) e

def infraredProtocolNec : InfraredCommonProtocolSpec where
  timings := infraredTimingsNec
  longest := 42
  shorter := [32]
  decode := infraredCommonDecodePdwm infraredTimingsNec
  encode := infraredCommonEncodePdwm infraredTimingsNec
  interpret := infraredDecoderNecInterpret
  decodeRepeat := some infraredDecoderNecDecodeRepeat
  encodeRepeat := some infraredEncoderNecEncodeRepeat

/-- `infrared_encoder_nec_reset`; it crashes on a foreign protocol. -/
def infraredEncoderNecReset (e : InfraredCommonEncoder) (message : InfraredMessage) :
    Option InfraredCommonEncoder :=
  let e := infraredCommonEncoderReset infraredProtocolNec e
  match message.protocol with
  | .nec =>
    let address := message.address &&& mask 8
    let command := message.command &&& mask 8
    some { e with
      data := storeWord 4 e.data 0
        (address ||| complement 8 address <<< 8 ||| command <<< 16 ||| complement 8 command <<< 24)
      bitsToEncode := 32 }
  | .necext =>
    some { e with
      data := storeWord 4 e.data 0
        (message.address &&& mask 16 ||| (message.command &&& mask 16) <<< 16)
      bitsToEncode := 32 }
  | .nec42 =>
    let data1 := message.address &&& mask 13 ||| complement 13 message.address <<< 13 |||
      (message.command &&& mask 6) <<< 26
    let data2 := (message.command &&& mask 2 <<< 6) >>> 6 ||| complement 8 message.command <<< 2
    some { e with
      data := storeWord 4 (storeWord 4 e.data 0 data1) 4 data2
      bitsToEncode := 42 }
  | .nec42ext =>
    let data1 := message.address &&& mask 26 ||| (message.command &&& mask 6) <<< 26
    let data2 := (message.command &&& mask 10 <<< 6) >>> 6
    some { e with
      data := storeWord 4 (storeWord 4 e.data 0 data1) 4 data2
      bitsToEncode := 42 }
  | _ => none

def infraredProtocolNecGetVariant : InfraredProtocol → Option InfraredProtocolVariant
  | .nec => some ⟨8, 8⟩
  | .necext => some ⟨16, 16⟩
  | .nec42 => some ⟨13, 8⟩
  | .nec42ext => some ⟨26, 16⟩
  | _ => none

/-! ### Samsung -/

/-- The timings of `infrared_protocol_samsung32`. -/
def infraredTimingsSamsung : InfraredTimings where
  minSplitTime := 5000
  silenceTime := 145000
  preambleMark := 4500
  preambleSpace := 4500
  bit1Mark := 550
  bit1Space := 1650
  bit0Mark := 550
  bit0Space := 550
  preambleTolerance := 200
  bitTolerance := 120

def infraredDecoderSamsung32Interpret (d : InfraredPayload) : Bool × InfraredPayload :=
  let address1 := d.data 0
  let address2 := d.data 1
  let command := d.data 2
  let commandInverse := d.data 3
  if address1 = address2 && command = complement 8 commandInverse then
    d.accept .samsung32 address1 command
  else (false, d)

def infraredDecoderSamsung32DecodeRepeat : List Nat → InfraredStatus × List Nat :=
  decodeRepeatSequence infraredTimingsSamsung 30000 140000 4500 4500
    [infraredTimingsSamsung.bit1Mark, infraredTimingsSamsung.bit1Space,
      infraredTimingsSamsung.bit1Mark]

def infraredEncoderSamsung32EncodeRepeat (e : InfraredCommonEncoder) : InfraredEncodeResult :=
  encodeRepeatSequence 46000 [97000, 4500, 4500, 550, 1650, 550] (1 + 2 + e.bitsEncoded * 2 + 1) e

def infraredProtocolSamsung32 : InfraredCommonProtocolSpec where
  timings := infraredTimingsSamsung
  longest := 32
  shorter := []
  decode := infraredCommonDecodePdwm infraredTimingsSamsung
  encode := infraredCommonEncodePdwm infraredTimingsSamsung
  interpret := infraredDecoderSamsung32Interpret
  decodeRepeat := some infraredDecoderSamsung32DecodeRepeat
  encodeRepeat := some infraredEncoderSamsung32EncodeRepeat

def infraredEncoderSamsung32Reset (e : InfraredCommonEncoder) (message : InfraredMessage) :
    Option InfraredCommonEncoder :=
  let e := infraredCommonEncoderReset infraredProtocolSamsung32 e
  let address := message.address &&& mask 8
  let command := message.command &&& mask 8
  some { e with
    data := storeWord 4 e.data 0 (loadWord 4 e.data 0 ||| address ||| address <<< 8 |||
      command <<< 16 ||| complement 8 command <<< 24)
    bitsToEncode := infraredProtocolSamsung32.longest }

def infraredProtocolSamsung32GetVariant : InfraredProtocol → Option InfraredProtocolVariant
  | .samsung32 => some ⟨8, 8⟩
  | _ => none

/-! ### RC5 -/

/-- The timings of `infrared_protocol_rc5`. -/
def infraredTimingsRc5 : InfraredTimings where
  minSplitTime := 2700
  silenceTime := 27000
  preambleMark := 0
  preambleSpace := 0
  bit1Mark := 888
  preambleTolerance := 0
  bitTolerance := 120

/-- `infrared_decoder_rc5_interpret`. It inverts the bytes also when it rejects them. -/
def infraredDecoderRc5Interpret (d : InfraredPayload) : Bool × InfraredPayload :=
  let d := { d with data := fun i => if i < 2 then complement 8 (d.data i) else d.data i }
  let address := reverseByte (d.data 0) &&& mask 5
  let command := reverseByte (d.data 1) >>> 2 &&& mask 6
  if (d.data 0).testBit 0 then
    d.acceptToggle (if (d.data 0).testBit 1 then .rc5 else .rc5x) address command
      ((d.data 0).testBit 2)
  else (false, d)

def infraredProtocolRc5 : InfraredCommonProtocolSpec where
  timings := infraredTimingsRc5
  longest := 1 + 1 + 1 + 5 + 6
  shorter := []
  decode := infraredCommonDecodeManchester infraredTimingsRc5 true (1 + 1 + 1 + 5 + 6)
  encode := infraredCommonEncodeManchester infraredTimingsRc5
  interpret := infraredDecoderRc5Interpret
  decodeRepeat := none
  encodeRepeat := none

def infraredEncoderRc5Reset (e : InfraredCommonEncoder) (message : InfraredMessage) :
    Option InfraredCommonEncoder :=
  let e := infraredCommonEncoderReset infraredProtocolRc5 e
  let start2 := if message.protocol = .rc5 then 0x02 else 0
  let toggle := if e.toggleBit then 0x04 else 0
  let data := storeWord 4 e.data 0 (loadWord 4 e.data 0 ||| 0x01 ||| start2 ||| toggle |||
    (reverseByte message.address >>> 3) <<< 3 ||| (reverseByte message.command >>> 2) <<< 8)
  some { e with
    data := fun i => if i < 2 then complement 8 (data i) else data i
    bitsToEncode := infraredProtocolRc5.longest
    toggleBit := !e.toggleBit }

def infraredProtocolRc5GetVariant : InfraredProtocol → Option InfraredProtocolVariant
  | .rc5 => some ⟨5, 6⟩
  | .rc5x => some ⟨5, 7⟩
  | _ => none

/-! ### RC6 -/

/-- The timings of `infrared_protocol_rc6`. -/
def infraredTimingsRc6 : InfraredTimings where
  minSplitTime := 2700
  silenceTime := 27000
  preambleMark := 2666
  preambleSpace := 889
  bit1Mark := 444
  preambleTolerance := 200
  bitTolerance := 120

def infraredDecoderRc6Interpret (d : InfraredPayload) : Bool × InfraredPayload :=
  let data := loadWord 4 d.data 0
  let address := reverseByte (data >>> 5)
  let command := reverseByte (data >>> 13)
  let mode := data >>> 1 &&& mask 3
  if data.testBit 0 && mode = 0 then d.acceptToggle .rc6 address command (data.testBit 4)
  else (false, d)

/-- `infrared_decoder_rc6_decode_manchester`: the bit after the fourth one, the toggle bit,
lasts twice as long. -/
def infraredDecoderRc6DecodeManchester (longest : Nat) (d : InfraredDatabits) (level : Bool)
    (timing : Nat) : InfraredStatus × InfraredDatabits :=
  let timings := infraredTimingsRc6
  let singleTiming := matchTiming timing timings.bit1Mark timings.bitTolerance
  let doubleTiming := matchTiming timing (2 * timings.bit1Mark) timings.bitTolerance
  let tripleTiming := matchTiming timing (3 * timings.bit1Mark) timings.bitTolerance
  if d.databitCnt = 4 then
    if singleTiming ^^ tripleTiming then
      let bit := if singleTiming then !level else level
      (.ok, { d with
        databitCnt := d.databitCnt + 1
        data := fun i => if i = 0 then d.data 0 ||| bit.toNat <<< 4 else d.data i })
    else (.error, d)
  else if d.databitCnt = 5 then
    if singleTiming || tripleTiming then
      infraredCommonDecodeManchester timings false longest { d with switchDetect := false } level
        (if tripleTiming then timings.bit1Mark else timing)
    else if doubleTiming then (.ok, d)
    else (.error, d)
  else infraredCommonDecodeManchester timings false longest d level timing

def infraredEncoderRc6EncodeManchester (e : InfraredCommonEncoder) : InfraredEncodeResult :=
  let (status, sample, e') := infraredCommonEncodeManchester infraredTimingsRc6 e
  (status, if e.bitsEncoded = 4 then { sample with duration := 2 * sample.duration } else sample, e')

def infraredProtocolRc6 : InfraredCommonProtocolSpec where
  timings := infraredTimingsRc6
  longest := 1 + 3 + 1 + 8 + 8
  shorter := []
  decode := infraredDecoderRc6DecodeManchester (1 + 3 + 1 + 8 + 8)
  encode := infraredEncoderRc6EncodeManchester
  interpret := infraredDecoderRc6Interpret
  decodeRepeat := none
  encodeRepeat := none

def infraredEncoderRc6Reset (e : InfraredCommonEncoder) (message : InfraredMessage) :
    Option InfraredCommonEncoder :=
  let e := infraredCommonEncoderReset infraredProtocolRc6 e
  let toggle := if e.toggleBit then 0x10 else 0
  some { e with
    data := storeWord 4 e.data 0 (loadWord 4 e.data 0 ||| 0x01 ||| toggle |||
      reverseByte message.address <<< 5 ||| reverseByte message.command <<< 13)
    bitsToEncode := infraredProtocolRc6.longest
    toggleBit := !e.toggleBit }

def infraredProtocolRc6GetVariant : InfraredProtocol → Option InfraredProtocolVariant
  | .rc6 => some ⟨8, 8⟩
  | _ => none

/-! ### SIRC -/

/-- The timings of `infrared_protocol_sirc`. -/
def infraredTimingsSirc : InfraredTimings where
  minSplitTime := 10000 - 1000
  silenceTime := 10000
  preambleMark := 2400
  preambleSpace := 600
  bit1Mark := 1200
  bit1Space := 600
  bit0Mark := 600
  bit0Space := 600
  preambleTolerance := 200
  bitTolerance := 120

def infraredDecoderSircInterpret (d : InfraredPayload) : Bool × InfraredPayload :=
  let data := loadWord 4 d.data 0
  if d.databitCnt = 12 then d.accept .sirc (data >>> 7 &&& mask 5) (data &&& mask 7)
  else if d.databitCnt = 15 then d.accept .sirc15 (data >>> 7 &&& mask 8) (data &&& mask 7)
  else if d.databitCnt = 20 then d.accept .sirc20 (data >>> 7 &&& mask 13) (data &&& mask 7)
  else (false, d)

def infraredEncoderSircEncodeRepeat : InfraredEncode :=
  encodeRepeatFrame fun e => 45000 - e.timingsSum

def infraredProtocolSirc : InfraredCommonProtocolSpec where
  timings := infraredTimingsSirc
  longest := 20
  shorter := [15, 12]
  decode := infraredCommonDecodePdwm infraredTimingsSirc
  encode := infraredCommonEncodePdwm infraredTimingsSirc
  interpret := infraredDecoderSircInterpret
  decodeRepeat := none
  encodeRepeat := some infraredEncoderSircEncodeRepeat

/-- `infrared_encoder_sirc_reset`; it crashes on a foreign protocol. -/
def infraredEncoderSircReset (e : InfraredCommonEncoder) (message : InfraredMessage) :
    Option InfraredCommonEncoder :=
  let e := infraredCommonEncoderReset infraredProtocolSirc e
  let pack (addressLength : Nat) :=
    storeWord 4 e.data 0 (message.command &&& mask 7 ||| (message.address &&& mask addressLength) <<< 7)
  match message.protocol with
  | .sirc => some { e with data := pack 5, bitsToEncode := 12 }
  | .sirc15 => some { e with data := pack 8, bitsToEncode := 15 }
  | .sirc20 => some { e with data := pack 13, bitsToEncode := 20 }
  | _ => none

def infraredProtocolSircGetVariant : InfraredProtocol → Option InfraredProtocolVariant
  | .sirc => some ⟨5, 7⟩
  | .sirc15 => some ⟨8, 7⟩
  | .sirc20 => some ⟨13, 7⟩
  | _ => none

/-! ### Kaseikyo -/

/-- The timings of `infrared_protocol_kaseikyo`. -/
def infraredTimingsKaseikyo : InfraredTimings where
  minSplitTime := 4000
  silenceTime := 130000
  preambleMark := 8 * 432
  preambleSpace := 4 * 432
  bit1Mark := 432
  bit1Space := 3 * 432
  bit0Mark := 432
  bit0Space := 432
  preambleTolerance := 200
  bitTolerance := 120

def infraredDecoderKaseikyoInterpret (d : InfraredPayload) : Bool × InfraredPayload :=
  let vendorId := d.data 1 <<< 8 ||| d.data 0
  let vendorParity := d.data 2 &&& mask 4
  let genre1 := d.data 2 >>> 4
  let genre2 := d.data 3 &&& mask 4
  let data := d.data 3 >>> 4 ||| (d.data 4 &&& mask 6) <<< 4
  let id := d.data 4 >>> 6
  let parity := d.data 5
  let vendorParityCheck := d.data 0 ^^^ d.data 1
  let vendorParityCheck := (vendorParityCheck &&& mask 4) ^^^ vendorParityCheck >>> 4
  let parityCheck := d.data 2 ^^^ d.data 3 ^^^ d.data 4
  if vendorParity = vendorParityCheck && parity = parityCheck then
    d.accept .kaseikyo (id <<< 24 ||| vendorId <<< 8 ||| genre1 <<< 4 ||| genre2) data
  else (false, d)

def infraredProtocolKaseikyo : InfraredCommonProtocolSpec where
  timings := infraredTimingsKaseikyo
  longest := 48
  shorter := []
  decode := infraredCommonDecodePdwm infraredTimingsKaseikyo
  encode := infraredCommonEncodePdwm infraredTimingsKaseikyo
  interpret := infraredDecoderKaseikyoInterpret
  decodeRepeat := none
  encodeRepeat := none

def infraredEncoderKaseikyoReset (e : InfraredCommonEncoder) (message : InfraredMessage) :
    Option InfraredCommonEncoder :=
  let e := infraredCommonEncoderReset infraredProtocolKaseikyo e
  let address := message.address
  let command := message.command &&& mask 16
  let id := address >>> 24 &&& mask 2
  let vendorId := address >>> 8 &&& mask 16
  let genre1 := address >>> 4 &&& mask 4
  let genre2 := address &&& mask 4
  let data0 := vendorId &&& mask 8
  let data1 := vendorId >>> 8
  let vendorParity := data0 ^^^ data1
  let vendorParity := (vendorParity &&& mask 4) ^^^ vendorParity >>> 4
  let data2 := vendorParity &&& mask 4 ||| genre1 <<< 4
  let data3 := genre2 &&& mask 4 ||| (command &&& mask 4) <<< 4
  let data4 := (id <<< 6 ||| command >>> 4) &&& mask 8
  let bytes := [data0, data1, data2, data3, data4, data2 ^^^ data3 ^^^ data4]
  some { e with
    data := fun i => if h : i < bytes.length then bytes[i] else e.data i
    bitsToEncode := infraredProtocolKaseikyo.longest }

def infraredProtocolKaseikyoGetVariant : InfraredProtocol → Option InfraredProtocolVariant
  | .kaseikyo => some ⟨26, 10⟩
  | _ => none

/-! ### RCA -/

/-- The timings of `infrared_protocol_rca`. -/
def infraredTimingsRca : InfraredTimings where
  minSplitTime := 4000
  silenceTime := 8000
  preambleMark := 4000
  preambleSpace := 4000
  bit1Mark := 500
  bit1Space := 2000
  bit0Mark := 500
  bit0Space := 1000
  preambleTolerance := 200
  bitTolerance := 120

def infraredDecoderRcaInterpret (d : InfraredPayload) : Bool × InfraredPayload :=
  let data := loadWord 4 d.data 0
  let address := data &&& mask 4
  let command := data >>> 4 &&& mask 8
  let addressInverse := data >>> 12 &&& mask 4
  let commandInverse := data >>> 16 &&& mask 8
  if command = complement 8 commandInverse && address = complement 4 addressInverse then
    d.accept .rca address command
  else (false, d)

def infraredProtocolRca : InfraredCommonProtocolSpec where
  timings := infraredTimingsRca
  longest := 24
  shorter := []
  decode := infraredCommonDecodePdwm infraredTimingsRca
  encode := infraredCommonEncodePdwm infraredTimingsRca
  interpret := infraredDecoderRcaInterpret
  decodeRepeat := none
  encodeRepeat := none

def infraredEncoderRcaReset (e : InfraredCommonEncoder) (message : InfraredMessage) :
    Option InfraredCommonEncoder :=
  let e := infraredCommonEncoderReset infraredProtocolRca e
  let address := message.address &&& mask 8
  let addressInverse := complement 8 address
  let command := message.command &&& mask 8
  let commandInverse := complement 8 command
  some { e with
    data := storeWord 4 e.data 0 (address &&& mask 4 ||| command <<< 4 |||
      (addressInverse &&& mask 4) <<< 12 ||| commandInverse <<< 16)
    bitsToEncode := infraredProtocolRca.longest }

def infraredProtocolRcaGetVariant : InfraredProtocol → Option InfraredProtocolVariant
  | .rca => some ⟨4, 8⟩
  | _ => none

/-! ### Pioneer -/

/-- The timings of `infrared_protocol_pioneer`. -/
def infraredTimingsPioneer : InfraredTimings where
  minSplitTime := 26000
  silenceTime := 26000
  preambleMark := 8500
  preambleSpace := 4225
  bit1Mark := 500
  bit1Space := 1500
  bit0Mark := 500
  bit0Space := 500
  preambleTolerance := 200
  bitTolerance := 120

def infraredDecoderPioneerInterpret (d : InfraredPayload) : Bool × InfraredPayload :=
  let data := loadWord 4 d.data 0
  if d.databitCnt = 33 || d.databitCnt = 32 then
    let address := data &&& mask 8
    let addressChecksum := data >>> 8 &&& mask 8
    let command := data >>> 16 &&& mask 8
    let commandChecksum := data >>> 24 &&& mask 8
    if addressChecksum ≠ complement 8 address then (false, d)
    else if commandChecksum ≠ complement 8 command then (false, d)
    else d.accept .pioneer address command
  else (false, d)

def infraredEncoderPioneerEncodeRepeat : InfraredEncode :=
  encodeRepeatFrame fun _ => infraredTimingsPioneer.silenceTime

def infraredProtocolPioneer : InfraredCommonProtocolSpec where
  timings := infraredTimingsPioneer
  longest := 33
  shorter := [32]
  decode := infraredCommonDecodePdwm infraredTimingsPioneer
  encode := infraredCommonEncodePdwm infraredTimingsPioneer
  interpret := infraredDecoderPioneerInterpret
  decodeRepeat := none
  encodeRepeat := some infraredEncoderPioneerEncodeRepeat

/-- `infrared_encoder_pioneer_reset`; it crashes on a foreign protocol. -/
def infraredEncoderPioneerReset (e : InfraredCommonEncoder) (message : InfraredMessage) :
    Option InfraredCommonEncoder :=
  let e := infraredCommonEncoderReset infraredProtocolPioneer e
  match message.protocol with
  | .pioneer =>
    let address := message.address &&& mask 8
    let command := message.command &&& mask 8
    let bytes := [address, complement 8 address, command, complement 8 command, 0]
    some { e with
      data := fun i => if h : i < bytes.length then bytes[i] else e.data i
      bitsToEncode := infraredProtocolPioneer.longest }
  | _ => none

def infraredProtocolPioneerGetVariant : InfraredProtocol → Option InfraredProtocolVariant
  | .pioneer => some ⟨8, 8⟩
  | _ => none

/-! ### The table -/

/-- An entry of `infrared_encoder_decoder`. -/
structure InfraredEncoderDecoder where
  spec : InfraredCommonProtocolSpec
  encode : InfraredEncode
  reset : InfraredCommonEncoder → InfraredMessage → Option InfraredCommonEncoder
  getProtocolVariant : InfraredProtocol → Option InfraredProtocolVariant

def infraredEntryNec : InfraredEncoderDecoder :=
  ⟨infraredProtocolNec, infraredCommonEncode infraredProtocolNec, infraredEncoderNecReset,
    infraredProtocolNecGetVariant⟩

def infraredEntrySamsung32 : InfraredEncoderDecoder :=
  ⟨infraredProtocolSamsung32, infraredCommonEncode infraredProtocolSamsung32,
    infraredEncoderSamsung32Reset, infraredProtocolSamsung32GetVariant⟩

def infraredEntryRc5 : InfraredEncoderDecoder :=
  ⟨infraredProtocolRc5, infraredCommonEncode infraredProtocolRc5, infraredEncoderRc5Reset,
    infraredProtocolRc5GetVariant⟩

def infraredEntryRc6 : InfraredEncoderDecoder :=
  ⟨infraredProtocolRc6, infraredCommonEncode infraredProtocolRc6, infraredEncoderRc6Reset,
    infraredProtocolRc6GetVariant⟩

def infraredEntrySirc : InfraredEncoderDecoder :=
  ⟨infraredProtocolSirc, encodeUntilSpace infraredProtocolSirc, infraredEncoderSircReset,
    infraredProtocolSircGetVariant⟩

def infraredEntryPioneer : InfraredEncoderDecoder :=
  ⟨infraredProtocolPioneer, encodeUntilSpace infraredProtocolPioneer, infraredEncoderPioneerReset,
    infraredProtocolPioneerGetVariant⟩

def infraredEntryKaseikyo : InfraredEncoderDecoder :=
  ⟨infraredProtocolKaseikyo, infraredCommonEncode infraredProtocolKaseikyo,
    infraredEncoderKaseikyoReset, infraredProtocolKaseikyoGetVariant⟩

def infraredEntryRca : InfraredEncoderDecoder :=
  ⟨infraredProtocolRca, infraredCommonEncode infraredProtocolRca, infraredEncoderRcaReset,
    infraredProtocolRcaGetVariant⟩

/-- The table `infrared_encoder_decoder`. -/
def infraredEncoderDecoder : List InfraredEncoderDecoder :=
  [infraredEntryNec, infraredEntrySamsung32, infraredEntryRc5, infraredEntryRc6, infraredEntrySirc,
    infraredEntryPioneer, infraredEntryKaseikyo, infraredEntryRca]

/-- The entry that `infrared_find_index_by_protocol` finds. -/
def infraredFindByProtocol (protocol : InfraredProtocol) : Option InfraredEncoderDecoder :=
  infraredEncoderDecoder.find? fun entry => (entry.getProtocolVariant protocol).isSome

end FlipperZero
