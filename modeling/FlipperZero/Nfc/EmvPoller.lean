import Mathlib.Tactic.Common

/-!
# Decoding the answers of an EMV card

`emv_poller_i.c`. Offsets into an answer are `uint8_t`s and wrap around. Addresses count from the
start of the buffer that is read; what lies behind the bytes received is part of the memory.
The application data is the memory of the `EmvApplication`, laid out as on the 32-bit target, so
that a copy that is too long for its field overwrites the fields behind it.
-/

namespace FlipperZero.Nfc

abbrev EmvMemory := UInt32 → UInt8

/-! ### The application data -/

inductive EmvTransactionField where
  | atc | amount | country | currency | date | time
deriving DecidableEq, Repr

/-- What the decoder writes to: the fields of an `EmvApplication`, and two local buffers. -/
inductive EmvDest where
  | logSfi | logRecords | logFmt | logFmtLen
  | trans (i : UInt8) (field : EmvTransactionField)
  | priority | aid | aidLen | applicationInterchangeProfile
  | applicationName | applicationLabel | cardholderName
  | pan | panLen | expDay | expMonth | expYear | effectiveDay | effectiveMonth | effectiveYear
  | countryCode | currencyCode | pinTryCounter | transactionCounter | lastOnlineAtc
  | pdolSize | pdolData | aflSize | aflData
  | track1Equiv | track2Equiv
deriving DecidableEq, Repr

def EmvTransactionField.size : EmvTransactionField → Nat
  | .atc      => 2
  | .amount   => 8
  | .country  => 2
  | .currency => 2
  | .date     => 4
  | .time     => 4

def EmvTransactionField.offset : EmvTransactionField → Nat
  | .atc      => 0
  | .amount   => 8
  | .country  => 16
  | .currency => 18
  | .date     => 20
  | .time     => 24

def EmvDest.size : EmvDest → Nat
  | .logFmt           => 50
  | .trans _ field    => field.size
  | .aid              => 16
  | .applicationInterchangeProfile => 2
  | .applicationName  => 17
  | .applicationLabel => 17
  | .cardholderName   => 25
  | .pan              => 10
  | .countryCode | .currencyCode | .transactionCounter | .lastOnlineAtc => 2
  | .pdolData         => 255
  | .aflData          => 255
  | .track1Equiv      => 80
  | .track2Equiv      => 41
  | _                 => 1

/-- The number of entries of `trans`. -/
def emvTransCount : Nat := 16

/-- The offset in the `EmvApplication`; `none` for the local buffers. -/
def EmvDest.offset : EmvDest → Option Nat
  | .logSfi           => some 0
  | .logRecords       => some 1
  | .logFmt           => some 2
  | .logFmtLen        => some 52
  | .trans i field    => some (56 + 32 * i.toNat + field.offset)
  | .priority         => some 568
  | .aid              => some 569
  | .aidLen           => some 585
  | .applicationInterchangeProfile => some 586
  | .applicationName  => some 588
  | .applicationLabel => some 605
  | .cardholderName   => some 622
  | .pan              => some 647
  | .panLen           => some 657
  | .expDay           => some 658
  | .expMonth         => some 659
  | .expYear          => some 660
  | .effectiveDay     => some 661
  | .effectiveMonth   => some 662
  | .effectiveYear    => some 663
  | .countryCode      => some 664
  | .currencyCode     => some 666
  | .pinTryCounter    => some 668
  | .transactionCounter => some 670
  | .lastOnlineAtc    => some 672
  | .pdolSize         => some 674
  | .pdolData         => some 675
  | .aflSize          => some 930
  | .aflData          => some 931
  | .track1Equiv | .track2Equiv => none

/-- What one branch of `emv_decode_tlv_tag` does, step by step. -/
inductive EmvOp where
  /-- `furi_check`. -/
  | check (ok : Bool)
  /-- Bytes of the answer are read. -/
  | read (src : UInt32) (n : Nat)
  /-- Bytes are written, `off` behind the start of the destination. -/
  | write (dest : EmvDest) (off : Nat) (bytes : List UInt8)

def writeBytes (app : EmvMemory) (addr : Nat) (bytes : List UInt8) : EmvMemory :=
  fun a => (bytes[a.toNat - addr]?.filter fun _ => addr ≤ a.toNat).getD (app a)

def EmvOp.run (app : EmvMemory) : EmvOp → Option EmvMemory
  | .check ok             => if ok then some app else none
  | .read _ _             => some app
  | .write dest off bytes =>
    match dest.offset with
    | none       => some app
    | some start => some (writeBytes app (start + off) bytes)

/-- `none`: a check failed. -/
def runEmvOps : List EmvOp → EmvMemory → Option EmvMemory
  | [], app        => some app
  | op :: ops, app => (op.run app).bind (runEmvOps ops)

/-! ### One item -/

def readBytes (buff : EmvMemory) (p : UInt32) (n : Nat) : List UInt8 :=
  (List.range n).map fun k => buff (p + UInt32.ofNat k)

/-- `memcpy(dest, &buff[p], n)`. -/
def emvCopy (buff : EmvMemory) (dest : EmvDest) (p : UInt32) (n : UInt8) : List EmvOp :=
  [.read p n.toNat, .write dest 0 (readBytes buff p n.toNat)]

/-- `dest = (buff[p] << 8 | buff[p + 1])`, little-endian in memory. -/
def emvCopy16 (buff : EmvMemory) (dest : EmvDest) (p : UInt32) : List EmvOp :=
  [.read p 2, .write dest 0 [buff (p + 1), buff p]]

/-- The search for the delimiter between the card number and the expiry date. -/
def emvTrack2Pan (buff : EmvMemory) (p : UInt32) : List Nat → List EmvOp
  | []      => []
  | x :: xs =>
    let at' := fun k : Nat => buff (p + UInt32.ofNat (x + k))
    .read (p + UInt32.ofNat (x + 1)) 1 ::
      if at' 1 > 0xD0 then
        [ .read p (x + 1), .write .pan 0 (readBytes buff p (x + 1)),
          .write .panLen 0 [UInt8.ofNat (x + 1)],
          .read (p + UInt32.ofNat (x + 1)) 2, .write .expYear 0 [at' 1 <<< 4 ||| at' 2 >>> 4],
          .read (p + UInt32.ofNat (x + 2)) 2, .write .expMonth 0 [at' 2 <<< 4 ||| at' 3 >>> 4] ]
      else emvTrack2Pan buff p xs

/-- The conversion of the track to characters, up to a padding nibble. -/
def emvTrack2Equiv (buff : EmvMemory) (p : UInt32) : List Nat → UInt8 → List EmvOp
  | [], len      => [.write .track2Equiv len.toNat [0]]
  | x :: xs, len =>
    let byte := buff (p + UInt32.ofNat x)
    let top := byte >>> 4 + 0x30
    let bottom := (byte &&& 0x0F) + 0x30
    .read (p + UInt32.ofNat x) 1 :: .write .track2Equiv (x * 2) [top] ::
      if top = 0x3F then [.write .track2Equiv (len + 1).toNat [0]]
      else .write .track2Equiv (x * 2 + 1) [bottom] ::
        if bottom = 0x3F then [.write .track2Equiv (len + 2).toNat [0]]
        else emvTrack2Equiv buff p xs (len + 2)

/-- `strlen(app->cardholder_name) > n`. -/
def emvCardholderLonger (app : EmvMemory) (n : UInt8) : Bool :=
  (List.range (n.toNat + 1)).all fun k => app (622 + UInt32.ofNat k) != 0

def emvLogFmtLen (app : EmvMemory) : UInt8 := app 52
def emvActiveTr (app : EmvMemory) : UInt8 := app 53
def emvSavingTransList (app : EmvMemory) : Bool := app 54 != 0
def emvPdolSize (app : EmvMemory) : UInt8 := app 674

/-- `emv_decode_tlv_tag` for the value at `p`. No caller reads what it returns. -/
def emvDecodeTlvTag (buff : EmvMemory) (p : UInt32) (tag : UInt16) (tlen : UInt8)
    (app : EmvMemory) : List EmvOp :=
  match tag.toNat with
  | 0x9F4F => -- log format
    .check (tlen < 50) :: emvCopy buff .logFmt p tlen ++ [.write .logFmtLen 0 [tlen]]
  | 0x80 => -- processing options, behind the interchange profile
    .check (tlen - 2 < 255) :: emvCopy buff .aflData (p + 2) (tlen - 2) ++
      [.write .aflSize 0 [tlen - 2]]
  | 0x4F => .write .aidLen 0 [tlen] :: emvCopy buff .aid p tlen
  | 0x87 => emvCopy buff .priority p tlen
  | 0x82 => .check (tlen == 2) :: emvCopy buff .applicationInterchangeProfile p tlen
  | 0x50 => emvCopy buff .applicationLabel p tlen ++ [.write .applicationLabel tlen.toNat [0]]
  | 0x9F12 =>
    .check (tlen < 17) :: emvCopy buff .applicationName p tlen ++
      [.write .applicationName tlen.toNat [0]]
  | 0x5F25 =>
    [ .read p 1, .write .effectiveYear 0 [buff p], .read (p + 1) 1,
      .write .effectiveMonth 0 [buff (p + 1)], .read (p + 2) 1,
      .write .effectiveDay 0 [buff (p + 2)] ]
  | 0x9F38 => emvCopy buff .pdolData p tlen ++ [.write .pdolSize 0 [tlen]]
  | 0x94 => emvCopy buff .aflData p tlen ++ [.write .aflSize 0 [tlen]]
  | 0x56 => emvCopy buff .track1Equiv p tlen ++ [.write .track1Equiv tlen.toNat [0]]
  | 0x9F6B | 0x57 =>
    emvTrack2Pan buff p (List.range' 1 (tlen.toNat - 1)) ++
      emvTrack2Equiv buff p (List.range tlen.toNat) 0
  | 0x5F20 =>
    if emvCardholderLonger app tlen then []
    else
      emvCopy buff .cardholderName p tlen ++ [.write .cardholderName tlen.toNat [0]] ++
        match (readBytes buff p tlen.toNat).findIdx? (· == 0x20) with
        | some k => [.write .cardholderName k [0]]
        | none   => []
  | 0x5A => emvCopy buff .pan p tlen ++ [.write .panLen 0 [tlen]]
  | 0x5F24 =>
    [ .read p 1, .write .expYear 0 [buff p], .read (p + 1) 1,
      .write .expMonth 0 [buff (p + 1)], .read (p + 2) 1, .write .expDay 0 [buff (p + 2)] ]
  | 0x9F42 => emvCopy16 buff .currencyCode p
  | 0x5F28 => emvCopy16 buff .countryCode p
  | 0x9F4D =>
    [ .read p 1, .write .logSfi 0 [buff p], .read (p + 1) 1,
      .write .logRecords 0 [buff (p + 1)] ]
  | 0x9F13 => emvCopy16 buff .lastOnlineAtc p
  | 0x9F36 =>
    if emvSavingTransList app then emvCopy16 buff (.trans (emvActiveTr app) .atc) p
    else emvCopy16 buff .transactionCounter p
  | 0x9F02 => emvCopy buff (.trans (emvActiveTr app) .amount) p tlen
  | 0x9F1A => emvCopy16 buff (.trans (emvActiveTr app) .country) p
  | 0x5F2A => emvCopy16 buff (.trans (emvActiveTr app) .currency) p
  | 0x9A   => emvCopy buff (.trans (emvActiveTr app) .date) p tlen
  | 0x9F21 => emvCopy buff (.trans (emvActiveTr app) .time) p tlen
  | 0x9F17 => [.read p 1, .write .pinTryCounter 0 [buff p]]
  | _ => []

/-! ### Headers -/

/-- An answer of two bytes that is a status word. -/
def emvResponseError (buff : EmvMemory) (base : UInt32) (len : UInt16) : Bool :=
  len == 2 && buff base >>> 4 == 6

structure EmvHeader where
  tag  : UInt16
  tlen : UInt8
  off  : UInt8

/-- `emv_parse_tag` on the bytes from `base` on: the header at `off`, and the offset behind it. -/
def emvParseTag (buff : EmvMemory) (base : UInt32) (len : UInt16) (off : UInt8) :
    Option EmvHeader :=
  if emvResponseError buff base len then none
  else
    let byte := fun i : UInt8 => buff (base + i.toUInt32)
    let twoByteTag := byte off &&& 31 == 31
    let tag :=
      if twoByteTag then
        (byte off).toUInt16 <<< 8 ||| (buff (base + off.toUInt32 + 1)).toUInt16
      else (byte off).toUInt16
    let i := if twoByteTag then off + 1 else off
    let i := i + 1
    let i := if byte i &&& 128 == 128 then i + 1 else i
    some ⟨tag, byte i, i + 1⟩

/-! ### The decoders -/

inductive EmvEnd (α : Type) where
  | returned (a : α)
  | crashed

/-- `emv_decode_response_tlv`, from the offset `i` on. Rounds and nested calls are `n` deep at
most. -/
def emvDecodeResponseTlv (buff : EmvMemory) : Nat → UInt32 → UInt8 → UInt8 → Bool → EmvMemory →
    Option (EmvEnd (Bool × EmvMemory))
  | 0, _, _, _, _, _ => none
  | n + 1, base, len, i, success, app =>
    if i < len then
      match emvParseTag buff base len.toUInt16 i with
      | none => some (.returned (false, app))
      | some ⟨tag, tlen, j⟩ =>
        if buff (base + i.toUInt32) &&& 32 == 32 then
          match emvDecodeResponseTlv buff n (base + j.toUInt32) tlen 0 false app with
          | none => none
          | some .crashed => some .crashed
          | some (.returned (_, app)) => emvDecodeResponseTlv buff n base len (j + tlen) true app
        else
          match runEmvOps (emvDecodeTlvTag buff (base + j.toUInt32) tag tlen app) app with
          | none => some .crashed
          | some app => emvDecodeResponseTlv buff n base len (j + tlen) true app
    else some (.returned (success, app))

/-- The loop of `emv_decode_tl`: the record from `i` on, with the log format from `f` on, which is
read from the application data. -/
def emvDecodeTlLoop (buff : EmvMemory) (len : UInt16) (fmtLen : UInt8) :
    Nat → UInt8 → UInt8 → EmvMemory → Option (EmvEnd (Bool × EmvMemory))
  | 0, _, _, _ => none
  | n + 1, i, f, app =>
    if f < fmtLen && i.toUInt16 < len then
      match emvParseTag app 2 fmtLen.toUInt16 f with
      | none => some (.returned (false, app))
      | some ⟨tag, tlen, g⟩ =>
        match runEmvOps (emvDecodeTlvTag buff i.toUInt32 tag tlen app) app with
        | none => some .crashed
        | some app => emvDecodeTlLoop buff len fmtLen n (i + tlen) g app
    else some (.returned (true, app))

/-- `emv_decode_tl` with the stored log format. -/
def emvDecodeTl (buff : EmvMemory) (n : Nat) (len : UInt16) (app : EmvMemory) :
    Option (EmvEnd (Bool × EmvMemory)) :=
  if emvResponseError buff 0 len then some (.returned (false, app))
  else emvDecodeTlLoop buff len (emvLogFmtLen app) n 0 0 app

structure PDOLValue where
  tag  : UInt16
  data : List UInt8

def pdolValues : List PDOLValue :=
  [ ⟨0x9F59, [0xC8, 0x80, 0x00]⟩, ⟨0x9F5A, [0x00]⟩, ⟨0x9F58, [0x01]⟩,
    ⟨0x9F66, [0x79, 0x00, 0x40, 0x80]⟩, ⟨0x9F40, [0x79, 0x00, 0x40, 0x80]⟩,
    ⟨0x9F02, [0x00, 0x00, 0x00, 0x10, 0x00, 0x00]⟩,
    ⟨0x9F03, [0x00, 0x00, 0x00, 0x00, 0x00, 0x00]⟩, ⟨0x9F1A, [0x01, 0x24]⟩,
    ⟨0x5F2A, [0x01, 0x24]⟩, ⟨0x95, [0x00, 0x00, 0x00, 0x00, 0x00]⟩,
    ⟨0x9A, [0x19, 0x01, 0x01]⟩, ⟨0x9C, [0x00]⟩, ⟨0x98, List.replicate 20 0⟩,
    ⟨0x9F37, [0x82, 0x3D, 0xDE, 0x7A]⟩ ]

/-- The bytes put into the answer to the PDOL for a tag: of the default value and, where it is too
short, of the memory behind it. -/
def pdolBytes (behind : UInt16 → Nat → UInt8) (tag : UInt16) (tlen : UInt8) : List UInt8 :=
  match pdolValues.find? (·.tag == tag) with
  | some v => (List.range tlen.toNat).map fun k => v.data[k]?.getD (behind tag k)
  | none   => List.replicate tlen.toNat 0

/-- `emv_prepare_pdol` on the stored PDOL, from the offset `i` on; the bytes so far are `dest`. -/
def emvPreparePdol (behind : UInt16 → Nat → UInt8) (app : EmvMemory) :
    Nat → UInt8 → List UInt8 → Option (EmvEnd (List UInt8))
  | 0, _, _ => none
  | n + 1, i, dest =>
    if i < emvPdolSize app then
      match emvParseTag app 675 (emvPdolSize app).toUInt16 i with
      | none => some (.returned [])
      | some ⟨tag, tlen, j⟩ =>
        if dest.length + tlen.toNat < 255 then
          emvPreparePdol behind app n j (dest ++ pdolBytes behind tag tlen)
        else some .crashed
    else some (.returned dest)

end FlipperZero.Nfc
