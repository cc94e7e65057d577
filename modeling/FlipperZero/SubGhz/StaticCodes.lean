import FlipperZero.Foundation.Mealy
import FlipperZero.SubGhz.BlockMath

/-!
# Static codes

`came.c`, `nice_flo.c`, `gate_tx.c`, `holtek.c`, `ansonic.c` and `doitrand.c` of
`lib/subghz/protocols` send a key in the same way: a long gap, a start pulse, and for every bit a
gap and a pulse of which one is long. They differ in durations and tolerances, in which lengths
they report, and in what their decoders do with a level that stands where it should not. A
`StaticCode` holds the differences, with what the durations of all of them have in common.
-/

namespace FlipperZero

open Foundation

/-! ### Decoders and encoders -/

/-- The steps of the decoders, such as `CameDecoderStep`. -/
inductive StaticDecoderStep where
  | reset
  | foundStartBit
  | saveDuration
  | checkDuration
  deriving DecidableEq

structure SubGhzBlockDecoder where
  parserStep : StaticDecoderStep
  teLast : Nat
  decodeData : BitVec 64
  decodeCountBit : BitVec 8
  deriving DecidableEq

structure SubGhzProtocolBlockEncoder where
  isRunning : Bool
  «repeat» : Nat
  front : Nat
  sizeUpload : Nat
  upload : List (Bool × Nat)
  deriving DecidableEq

def subghzProtocolBlocksAddBit (decoder : SubGhzBlockDecoder) (bit : Bool) : SubGhzBlockDecoder :=
  { decoder with
    decodeData := shiftIn decoder.decodeData bit
    decodeCountBit := decoder.decodeCountBit + 1 }

/-- What one protocol has otherwise than another. -/
structure StaticCode where
  teShort : Nat
  teLong : Nat
  teDelta : Nat
  /-- How far a long gap or pulse may be off. -/
  longDelta : Nat
  /-- The gap before the start pulse. -/
  header : Nat
  headerDelta : Nat
  start : Nat
  startDelta : Nat
  /-- Another gap before the start pulse is passed over. -/
  startWaits : Bool
  /-- A gap that ends the bits. -/
  endDuration : Nat
  /-- Another pulse before a gap is passed over. -/
  saveWaits : Bool
  /-- The bits are cleared at their end. -/
  clears : Bool
  /-- The bit of a short gap and a long pulse. -/
  longHigh : Bool
  accepts : BitVec 64 → BitVec 8 → Bool
  /-- The lengths of keys that are sent. -/
  sends : BitVec 16 → Bool
  sendHeader : BitVec 16 → Nat
  sendStart : Nat
  maxUpload : Nat
  short_le_long : teShort + 2 * teDelta ≤ teLong
  delta_le : teDelta ≤ longDelta
  long_le_end : teLong + longDelta ≤ endDuration
  end_le_header : endDuration + headerDelta ≤ header
  sendStart_le : durationDiff sendStart start + teDelta ≤ startDelta
  upload_le : ∀ count, sends count → count.toNat * 2 + 2 ≤ maxUpload
  maxUpload_le : maxUpload ≤ 128

namespace StaticCode

variable (c : StaticCode)

/-- The bit of a gap and a pulse. -/
def bitOf (low high : Nat) : Option Bool :=
  if durationDiff low c.teShort < c.teDelta ∧ durationDiff high c.teLong < c.longDelta then
    some c.longHigh
  else if durationDiff low c.teLong < c.longDelta ∧ durationDiff high c.teShort < c.teDelta then
    some !c.longHigh
  else none

/-- The decoder of a static code, with the key and the number of its bits that the callback
gets. -/
def feed (decoder : SubGhzBlockDecoder) (level : Bool) (duration : Nat) :
    Option (BitVec 64 × BitVec 8) × SubGhzBlockDecoder :=
  match decoder.parserStep with
  | .reset =>
    if !level ∧ durationDiff duration c.header < c.headerDelta then
      (none, { decoder with parserStep := .foundStartBit })
    else (none, decoder)
  | .foundStartBit =>
    if !level ∧ c.startWaits then (none, decoder)
    else if level ∧ durationDiff duration c.start < c.startDelta then
      (none, { decoder with parserStep := .saveDuration, decodeData := 0, decodeCountBit := 0 })
    else (none, { decoder with parserStep := .reset })
  | .saveDuration =>
    if !level then
      if c.endDuration ≤ duration then
        (if c.accepts decoder.decodeData decoder.decodeCountBit then
            some (decoder.decodeData, decoder.decodeCountBit)
          else none,
          { decoder with
            parserStep := .foundStartBit
            decodeData := if c.clears then 0 else decoder.decodeData
            decodeCountBit := if c.clears then 0 else decoder.decodeCountBit })
      else (none, { decoder with teLast := duration, parserStep := .checkDuration })
    else if c.saveWaits then (none, decoder)
    else (none, { decoder with parserStep := .reset })
  | .checkDuration =>
    if level then
      match c.bitOf decoder.teLast duration with
      | some bit =>
        (none, { subghzProtocolBlocksAddBit decoder bit with parserStep := .saveDuration })
      | none     => (none, { decoder with parserStep := .reset })
    else (none, { decoder with parserStep := .reset })

/-- The gap and the pulse of a bit. -/
def sendBit (bit : Bool) : List (Bool × Nat) :=
  if bit = c.longHigh then [(false, c.teShort), (true, c.teLong)]
  else [(false, c.teLong), (true, c.teShort)]

/-- The key from its bit `i - 1` on. -/
def sendKey (data : BitVec 64) : Nat → List (Bool × Nat)
  | 0     => []
  | i + 1 => c.sendBit (data.getLsbD i) ++ sendKey data i

/-- What is sent for a key, unless there is too little room. -/
def getUpload (encoder : SubGhzProtocolBlockEncoder) (data : BitVec 64)
    (dataCountBit : BitVec 16) : Option SubGhzProtocolBlockEncoder :=
  if encoder.sizeUpload < dataCountBit.toNat * 2 + 2 then none
  else some { encoder with
    sizeUpload := dataCountBit.toNat * 2 + 2
    upload := (false, c.sendHeader dataCountBit) :: (true, c.sendStart) ::
      c.sendKey data (dataCountBit.setWidth 8).toNat }

def encoderAlloc : SubGhzProtocolBlockEncoder where
  isRunning := false
  «repeat» := 10
  front := 0
  sizeUpload := c.maxUpload
  upload := []

/-- The encoder that has been given a key, the number of its bits and perhaps how often it is to be
sent, as they are read from a file. -/
def deserialize (encoder : SubGhzProtocolBlockEncoder) (data : BitVec 64)
    (dataCountBit : BitVec 16) (times : Option Nat) : Option SubGhzProtocolBlockEncoder :=
  if !c.sends dataCountBit then none
  else
    (c.getUpload { encoder with «repeat» := times.getD encoder.repeat } data dataCountBit).map
      fun encoder => { encoder with isRunning := true }

end StaticCode

/-- The encoder gives one level after the other, and nothing when everything has been sent. -/
def SubGhzProtocolBlockEncoder.yield (encoder : SubGhzProtocolBlockEncoder) :
    Option (Bool × Nat) × SubGhzProtocolBlockEncoder :=
  if encoder.repeat = 0 ∨ !encoder.isRunning then (none, { encoder with isRunning := false })
  else
    (encoder.upload[encoder.front]?,
      if encoder.front + 1 = encoder.sizeUpload then
        { encoder with «repeat» := encoder.repeat - 1, front := 0 }
      else { encoder with front := encoder.front + 1 })

/-! ### The protocols -/

lemma upload_le_of_le {n : BitVec 16} {size : Nat} (hn : n.toNat * 2 + 2 ≤ size)
    (count : BitVec 16) (h : decide (count ≤ n) = true) : count.toNat * 2 + 2 ≤ size := by
  have hle : count.toNat ≤ n.toNat := of_decide_eq_true h
  omega

lemma upload_le_of_range {m n : BitVec 16} {size : Nat} (hn : n.toNat * 2 + 2 ≤ size)
    (count : BitVec 16) (h : decide (m ≤ count ∧ count ≤ n) = true) :
    count.toNat * 2 + 2 ≤ size :=
  upload_le_of_le hn count (decide_eq_true (of_decide_eq_true h).2)

lemma upload_le_of_eq {n : BitVec 16} {size : Nat} (hn : n.toNat * 2 + 2 ≤ size)
    (count : BitVec 16) (h : decide (count = n) = true) : count.toNat * 2 + 2 ≤ size := by
  rw [of_decide_eq_true h]
  exact hn

/-- `came.c`. -/
def subghzProtocolCame : StaticCode where
  teShort := 320
  teLong := 640
  teDelta := 150
  longDelta := 150
  header := 320 * 56
  headerDelta := 150 * 47
  start := 320
  startDelta := 150
  startWaits := true
  endDuration := 320 * 4
  saveWaits := false
  clears := false
  longHigh := false
  accepts _ count := count = 12 ∨ count = 18 ∨ count = 25 ∨ count = 24
  sends count := count ≤ 25
  sendHeader count :=
    if count = 24 then 320 * 76
    else if count = 12 ∨ count = 18 then 320 * 47
    else if count = 25 then 320 * 36
    else 320 * 16
  sendStart := 320
  maxUpload := 128
  short_le_long := by decide
  delta_le := by decide
  long_le_end := by decide
  end_le_header := by decide
  sendStart_le := by decide
  upload_le := upload_le_of_le (by decide)
  maxUpload_le := by decide

/-- `nice_flo.c`. -/
def subghzProtocolNiceFlo : StaticCode where
  teShort := 700
  teLong := 1400
  teDelta := 200
  longDelta := 200
  header := 700 * 36
  headerDelta := 200 * 36
  start := 700
  startDelta := 200
  startWaits := true
  endDuration := 700 * 4
  saveWaits := false
  clears := false
  longHigh := false
  accepts _ count := 12 ≤ count
  sends count := 12 ≤ count ∧ count ≤ 2 * 12
  sendHeader _ := 700 * 36
  sendStart := 700
  maxUpload := 52
  short_le_long := by decide
  delta_le := by decide
  long_le_end := by decide
  end_le_header := by decide
  sendStart_le := by decide
  upload_le := upload_le_of_range (by decide)
  maxUpload_le := by decide

/-- `gate_tx.c`. -/
def subghzProtocolGateTx : StaticCode where
  teShort := 350
  teLong := 700
  teDelta := 100
  longDelta := 100 * 3
  header := 350 * 47
  headerDelta := 100 * 47
  start := 700
  startDelta := 100 * 3
  startWaits := false
  endDuration := 350 * 10 + 100
  saveWaits := true
  clears := true
  longHigh := false
  accepts _ count := count = 24
  sends count := count = 24
  sendHeader _ := 350 * 49
  sendStart := 700
  maxUpload := 52
  short_le_long := by decide
  delta_le := by decide
  long_le_end := by decide
  end_le_header := by decide
  sendStart_le := by decide
  upload_le := upload_le_of_eq (by decide)
  maxUpload_le := by decide

/-- `holtek.c`. -/
def subghzProtocolHoltek : StaticCode where
  teShort := 430
  teLong := 870
  teDelta := 100
  longDelta := 100 * 2
  header := 430 * 36
  headerDelta := 100 * 36
  start := 430
  startDelta := 100
  startWaits := false
  endDuration := 430 * 10 + 100
  saveWaits := false
  clears := true
  longHigh := false
  accepts data count := count = 40 ∧ data &&& 0xF000000000 = 0x5000000000
  sends count := count = 40
  sendHeader _ := 430 * 36
  sendStart := 430
  maxUpload := 128
  short_le_long := by decide
  delta_le := by decide
  long_le_end := by decide
  end_le_header := by decide
  sendStart_le := by decide
  upload_le := upload_le_of_eq (by decide)
  maxUpload_le := by decide

/-- `ansonic.c`. -/
def subghzProtocolAnsonic : StaticCode where
  teShort := 555
  teLong := 1111
  teDelta := 120
  longDelta := 120
  header := 555 * 35
  headerDelta := 120 * 35
  start := 555
  startDelta := 120
  startWaits := true
  endDuration := 555 * 4
  saveWaits := false
  clears := false
  longHigh := true
  accepts _ count := 12 ≤ count
  sends count := count = 12
  sendHeader _ := 555 * 35
  sendStart := 555
  maxUpload := 52
  short_le_long := by decide
  delta_le := by decide
  long_le_end := by decide
  end_le_header := by decide
  sendStart_le := by decide
  upload_le := upload_le_of_eq (by decide)
  maxUpload_le := by decide

/-- `doitrand.c`. -/
def subghzProtocolDoitrand : StaticCode where
  teShort := 400
  teLong := 1100
  teDelta := 150
  longDelta := 150 * 3
  header := 400 * 62
  headerDelta := 150 * 30
  start := 400 * 2
  startDelta := 150 * 3
  startWaits := false
  endDuration := 400 * 10 + 150
  saveWaits := true
  clears := true
  longHigh := false
  accepts _ count := count = 37
  sends count := count = 37
  sendHeader _ := 400 * 62
  sendStart := 400 * 2 - 100
  maxUpload := 128
  short_le_long := by decide
  delta_le := by decide
  long_le_end := by decide
  end_le_header := by decide
  sendStart_le := by decide
  upload_le := upload_le_of_eq (by decide)
  maxUpload_le := by decide

/-- The protocols that send static codes. -/
inductive StaticProtocol where
  | came
  | niceFlo
  | gateTx
  | holtek
  | ansonic
  | doitrand
  deriving DecidableEq

/-- What a protocol sends and receives. -/
def StaticProtocol.code : StaticProtocol → StaticCode
  | .came     => subghzProtocolCame
  | .niceFlo  => subghzProtocolNiceFlo
  | .gateTx   => subghzProtocolGateTx
  | .holtek   => subghzProtocolHoltek
  | .ansonic  => subghzProtocolAnsonic
  | .doitrand => subghzProtocolDoitrand

def subghzProtocolDecoderCameFeed := subghzProtocolCame.feed

def subghzProtocolEncoderCameGetUpload := subghzProtocolCame.getUpload

def subghzProtocolDecoderNiceFloFeed := subghzProtocolNiceFlo.feed

def subghzProtocolEncoderNiceFloGetUpload := subghzProtocolNiceFlo.getUpload

def subghzProtocolDecoderGateTxFeed := subghzProtocolGateTx.feed

def subghzProtocolEncoderGateTxGetUpload := subghzProtocolGateTx.getUpload

def subghzProtocolDecoderHoltekFeed := subghzProtocolHoltek.feed

def subghzProtocolEncoderHoltekGetUpload := subghzProtocolHoltek.getUpload

def subghzProtocolDecoderAnsonicFeed := subghzProtocolAnsonic.feed

def subghzProtocolEncoderAnsonicGetUpload := subghzProtocolAnsonic.getUpload

def subghzProtocolDecoderDoitrandFeed := subghzProtocolDoitrand.feed

def subghzProtocolEncoderDoitrandGetUpload := subghzProtocolDoitrand.getUpload

end FlipperZero
