import FlipperZero.Nfc.MfClassicListener

/-!
# The authentication of the MIFARE Classic poller

`mf_classic_poller_auth_common` asks a card for its nonce, answers it with a nonce of its own and
with the proof that it has the key, and takes the answer of the card for granted. What the layer
below receives for a frame is a parameter. After an error the card is halted, which changes nothing
here.
-/

namespace FlipperZero

open Foundation

inductive Iso14443_3aError where
  | none
  | notPresent
  | colResFailed
  | bufferOverflow
  | communication
  | fieldOff
  | wrongCrc
  | timeout
  deriving DecidableEq, Repr

inductive MfClassicError where
  | none
  | notPresent
  | protocol
  | auth
  | partialRead
  | timeout
  deriving DecidableEq, Repr

inductive MfClassicAuthState where
  | idle
  | passed
  deriving DecidableEq, Repr

/-- `MfClassicPoller`, with the number that `iso14443_3a_get_cuid` makes of the UID of the card. -/
structure MfClassicPoller where
  cuid : BitVec 32
  authState : MfClassicAuthState
  crypto : Crypto1
  txPlainBuffer : BitBuffer
  txEncryptedBuffer : BitBuffer
  rxPlainBuffer : BitBuffer
  rxEncryptedBuffer : BitBuffer

/-- `mf_classic_poller_alloc`. The buffers hold `MF_CLASSIC_MAX_BUFF_SIZE` bytes. -/
def mfClassicPollerAlloc (cuid : BitVec 32) : MfClassicPoller where
  cuid := cuid
  authState := .idle
  crypto := crypto1Reset
  txPlainBuffer := .alloc 64
  txEncryptedBuffer := .alloc 64
  rxPlainBuffer := .alloc 64
  rxEncryptedBuffer := .alloc 64

/-- What the layer below gives back for a frame: an error and the receive buffer. -/
abbrev Iso14443_3aExchange := BitBuffer → Iso14443_3aError × BitBuffer

def mfClassicProcessError : Iso14443_3aError → MfClassicError
  | .none       => .none
  | .notPresent => .notPresent
  | .timeout    => .timeout
  | _           => .protocol

def BitBuffer.writeBytes (buf : BitBuffer) (dest : List (BitVec 8)) : Option (List (BitVec 8)) :=
  if buf.getSizeBytes ≤ dest.length then
    some (buf.bytes 0 buf.getSizeBytes ++ dest.drop buf.getSizeBytes)
  else none

/-! ### The answer to a nonce -/

/-- The first loop of `crypto1_encrypt_reader_nonce`, which replaces the nonce in place. -/
def crypto1EncryptNonceByte (r : Crypto1 × List (BitVec 8) × BitBuffer) (i : Nat) :
    Option (Crypto1 × List (BitVec 8) × BitBuffer) :=
  let (c, nr, out) := r
  let (byte, c) := crypto1Byte c (nr.getD i 0) false
  let byte := byte ^^^ nr.getD i 0
  let parityBit := crypto1Filter c.odd ^^ oddParity8 (nr.getD i 0)
  (out.setByteWithParity i byte parityBit).map fun out => (c, nr.set i byte, out)

/-- The second loop of `crypto1_encrypt_reader_nonce`. -/
def crypto1EncryptAnswerByte (r : Crypto1 × BitVec 32 × BitBuffer) (i : Nat) :
    Option (Crypto1 × BitVec 32 × BitBuffer) :=
  let (c, ntNum, out) := r
  let ntNum := crypto1PrngSuccessor ntNum 8
  let (byte, c) := crypto1Byte c 0 false
  let byte := byte ^^^ ntNum.setWidth 8
  let parityBit := crypto1Filter c.odd ^^ oddParity8 (ntNum.setWidth 8)
  (out.setByteWithParity i byte parityBit).map fun out => (c, ntNum, out)

/-- The register of `crypto1_encrypt_reader_nonce` after the nonce of the card, and the plain
nonce. -/
def crypto1FeedCardNonce (key : BitVec 64) (cuid ntNum : BitVec 32) (isNested : Bool) :
    Crypto1 × BitVec 32 :=
  let c := crypto1Init key
  if isNested then
    let (ks, c) := crypto1Word c (ntNum ^^^ cuid) true
    (c, ks ^^^ ntNum)
  else ((crypto1Word c (ntNum ^^^ cuid) false).2, ntNum)

/-- `crypto1_encrypt_reader_nonce`: the register, the nonce of the reader as it has been sent, and
the frame. -/
def crypto1EncryptReaderNonce (key : BitVec 64) (cuid : BitVec 32) (nt nr : List (BitVec 8))
    (out : BitBuffer) (isNested : Bool) : Option (Crypto1 × List (BitVec 8) × BitBuffer) :=
  (out.setSizeBytes 8).bind fun out =>
    let (c, ntNum) := crypto1FeedCardNonce key cuid (bytesToNumBe nt) isNested
    ([0, 1, 2, 3].foldlM crypto1EncryptNonceByte (c, nr, out)).bind fun (c, nr, out) =>
      ([4, 5, 6, 7].foldlM crypto1EncryptAnswerByte
        (c, crypto1PrngSuccessor ntNum 32, out)).map fun (c, _, out) => (c, nr, out)

/-! ### The poller -/

/-- The command byte of an authentication. -/
def mfClassicAuthType (keyType : MfClassicKeyType) (backdoorAuth : Bool) : BitVec 8 :=
  match backdoorAuth, keyType with
  | false, .a => 0x60
  | false, .b => 0x61
  | true,  .a => 0x64
  | true,  .b => 0x65

/-- `mf_classic_poller_get_nt_common`. The nonce has no checksum, so that a plain one is an error of
the layer below; any other error, and the lack of one, leaves the nonce of the caller as it is. -/
def mfClassicPollerGetNtCommon (p : MfClassicPoller) (blockNum : BitVec 8)
    (keyType : MfClassicKeyType) (isNested backdoorAuth : Bool) (exchange : Iso14443_3aExchange) :
    Option (MfClassicError × List (BitVec 8) × MfClassicPoller) :=
  (p.txPlainBuffer.copyBytes [mfClassicAuthType keyType backdoorAuth, blockNum]).bind fun tx =>
    (if isNested then
      (iso14443CrcAppend tx).bind fun tx =>
        (crypto1Encrypt p.crypto [] tx p.txEncryptedBuffer).map fun (crypto, encrypted) =>
          ({ p with crypto := crypto, txPlainBuffer := tx, txEncryptedBuffer := encrypted },
            encrypted)
    else some ({ p with txPlainBuffer := tx }, tx)).map fun (p, frame) =>
      let (error, rx) := exchange frame
      let p := { p with rxPlainBuffer := rx }
      if error ≠ (if isNested then .none else .wrongCrc) then
        (mfClassicProcessError error, [0, 0, 0, 0], p)
      else if rx.getSizeBytes ≠ 4 then (.protocol, [0, 0, 0, 0], p)
      else (.none, rx.bytes 0 4, p)

/-- `mf_classic_poller_auth_common`, with the random number for the nonce of the reader. An answer
that is not four bytes long is an error, and the authentication has passed all the same. -/
def mfClassicPollerAuthCommon (p : MfClassicPoller) (blockNum : BitVec 8) (key : BitVec 64)
    (keyType : MfClassicKeyType) (data : Option MfClassicAuthContext)
    (isNested backdoorAuth earlyRet : Bool) (nr : List (BitVec 8))
    (exchangeNt exchangeAr : Iso14443_3aExchange) :
    Option (MfClassicError × Option MfClassicAuthContext × MfClassicPoller) :=
  (mfClassicPollerGetNtCommon p blockNum keyType isNested backdoorAuth exchangeNt).bind
    fun (ret, nt, p) =>
      if ret ≠ .none then some (ret, data, p)
      else
        let data := data.map fun d => { d with nt := bytesToNumBe nt }
        if earlyRet then some (.none, data, p)
        else
          (crypto1EncryptReaderNonce key p.cuid nt nr p.txEncryptedBuffer isNested).bind
            fun (crypto, nr, tx) =>
              let (error, rx) := exchangeAr tx
              let p := { p with crypto := crypto, txEncryptedBuffer := tx, rxEncryptedBuffer := rx }
              if error ≠ .none then some (mfClassicProcessError error, data, p)
              else
                let ret := if rx.getSizeBytes ≠ 4 then .auth else .none
                let p := { p with
                  crypto := (crypto1Word p.crypto 0 false).2
                  authState := .passed }
                match data with
                | none   => some (ret, none, p)
                | some d =>
                  (rx.writeBytes (numToBytesBe d.at_)).map fun at_ =>
                    (ret, some { d with
                      nr := bytesToNumBe nr
                      ar := bytesToNumBe (tx.bytes 4 4)
                      at_ := bytesToNumBe at_ }, p)

end FlipperZero
