import FlipperZero.Foundation.System
import FlipperZero.Nfc.MfClassicListener

/-!
# Sessions of a MIFARE Classic reader

What a reader has done since the card was last reset is told from the plain frames and the data of
the card: the command whose further frames are awaited, and the block and the key of the last
authentication that the reader has completed. From it follows what the reader may change.
-/

namespace FlipperZero

open Foundation

/-! ### Sessions -/

/-- A command that awaits a frame: the answer to a nonce, the bytes to write, the operand of a value
command, and its Transfer. -/
inductive MfClassicCommand where
  | auth (keyType : MfClassicKeyType) (block : BitVec 8) (nonce : BitVec 32)
  | write (block : BitVec 8)
  | value
  | transfer
  deriving DecidableEq, Repr

/-- A session: the open command, and the block and the key of the authentication. -/
structure MfClassicSession where
  command : Option MfClassicCommand
  authenticated : Option (BitVec 8 × MfClassicKeyType)
  deriving DecidableEq, Repr

/-- The cipher with the key of a sector, after the nonce. -/
def MfClassicData.sessionCrypto (data : MfClassicData) (keyType : MfClassicKeyType)
    (block : BitVec 8) (nonce : BitVec 32) : Crypto1 :=
  let key := data.getKey (mfClassicGetSectorByBlock block) keyType
  (crypto1Word (crypto1Init key) (nonce ^^^ data.cuid) false).2

/-- A frame shows that the reader knows the key of the sector of a block: it holds the nonce of the
reader and the encrypted successor of the nonce of the card. -/
def MfClassicData.ProvesKey (data : MfClassicData) (keyType : MfClassicKeyType)
    (block : BitVec 8) (nonce : BitVec 32) (rx : BitBuffer) : Prop :=
  let crypto := (crypto1Word (data.sessionCrypto keyType block nonce)
    (bytesToNumBe (rx.bytes 0 4)) true).2
  rx.getSizeBytes = 8 ∧
    bytesToNumBe (rx.bytes 4 4) ^^^ (crypto1Word crypto 0 false).1 = crypto1PrngSuccessor nonce 64

instance (data : MfClassicData) (keyType : MfClassicKeyType) (block : BitVec 8)
    (nonce : BitVec 32) (rx : BitBuffer) : Decidable (data.ProvesKey keyType block nonce rx) :=
  inferInstanceAs (Decidable (_ ∧ _))

/-- What a key has to be allowed to do for a byte of a block to be written. -/
def mfClassicWriteAction (block : BitVec 8) (i : Fin 16) : MfClassicAction :=
  if mfClassicIsSectorTrailer block then
    if i.val < 6 then .keyAWrite else if i.val < 10 then .acWrite else .keyBWrite
  else .dataWrite

/-- The block that a Transfer names. -/
def mfClassicTransferTarget (rx : BitBuffer) : Option (BitVec 8) :=
  if rx.getSizeBytes = 2 ∧ rx.getByte 0 = 0xB0 then some (rx.getByte 1) else none

namespace MfClassicSession

/-- The session before the first frame. -/
def closed : MfClassicSession where
  command := none
  authenticated := none

/-- The first frame of a command. An authentication ends the one before it. -/
def start (session : MfClassicSession) (rx : BitBuffer) (random : BitVec 32) : MfClassicSession :=
  let block := rx.getByte 1
  if rx.getByte 0 = 0x60 then ⟨some (.auth .a block random), none⟩
  else if rx.getByte 0 = 0x61 then ⟨some (.auth .b block random), none⟩
  else if rx.getByte 0 = 0xA0 then ⟨some (.write block), session.authenticated⟩
  else if rx.getByte 0 = 0xC0 ∨ rx.getByte 0 = 0xC1 ∨ rx.getByte 0 = 0xC2 then
    ⟨some .value, session.authenticated⟩
  else session

/-- A plain frame that the card takes. -/
def frame (session : MfClassicSession) (data : MfClassicData) (rx : BitBuffer)
    (random : BitVec 32) : MfClassicSession :=
  match session.command with
  | none                             => session.start rx random
  | some (.auth keyType block nonce) =>
    ⟨none, if data.ProvesKey keyType block nonce rx then some (block, keyType) else none⟩
  | some (.write _)                  => ⟨none, session.authenticated⟩
  | some .value                      => ⟨some .transfer, session.authenticated⟩
  | some .transfer                   => ⟨none, session.authenticated⟩

/-- A plain frame may change a byte of a block: it ends a Write or is a Transfer to the block, the
session has an authentication for the sector of the block, and the access bits allow it for the
key. -/
def Admits (session : MfClassicSession) (data : MfClassicData) (rx : BitBuffer) (block : BitVec 8)
    (i : Fin 16) : Prop :=
  ∃ authBlock keyType, session.authenticated = some (authBlock, keyType) ∧
    mfClassicGetSectorByBlock authBlock = mfClassicGetSectorByBlock block ∧
    (session.command = some (.write block) ∧
        data.isAllowedAccess block keyType (mfClassicWriteAction block i) = true ∨
      session.command = some .transfer ∧ mfClassicTransferTarget rx = some block ∧
        data.isAllowedAccess block keyType .dataDec = true)

/-- A Transfer that the access bits allow stays in the sector of the authentication. -/
def TransferInside (session : MfClassicSession) (data : MfClassicData) (rx : BitBuffer) : Prop :=
  session.command = some .transfer →
    ∀ block ∈ mfClassicTransferTarget rx, ∀ auth ∈ session.authenticated,
      data.isAllowedAccess block auth.2 .dataDec = true →
        mfClassicGetSectorByBlock auth.1 = mfClassicGetSectorByBlock block

end MfClassicSession

/-! ### Runs -/

/-- The listener with the session. -/
structure MfClassicRun where
  listener : MfClassicListener
  session : MfClassicSession

namespace MfClassicRun

/-- The listener when the emulation starts. -/
def init (data : MfClassicData) : MfClassicRun where
  listener := mfClassicListenerAlloc data
  session := .closed

def plainFrame (r : MfClassicRun) : MfClassicListenerEvent → Option BitBuffer
  | .received buffer _ => (mfClassicListenerPlainFrame r.listener buffer).map Prod.fst
  | _                  => none

/-- The session after an event. It is over when the listener tells the card to sleep, and when the
reader halts the card. -/
def nextSession (r : MfClassicRun) (event : MfClassicListenerEvent) (reply : NfcCommand) :
    MfClassicSession :=
  match event, reply with
  | _, .sleep                  => .closed
  | .halted, _                 => .closed
  | .received buffer random, _ =>
    match r.plainFrame (.received buffer random) with
    | none    => r.session
    | some rx => r.session.frame r.listener.data rx random
  | _, _                       => r.session

/-- The plain frame of an event admits every change of the card. -/
def Guarded (r : MfClassicRun) (event : MfClassicListenerEvent) (r' : MfClassicRun) : Prop :=
  ∀ block i, r'.listener.data.block block i ≠ r.listener.data.block block i →
    ∃ rx ∈ r.plainFrame event, r.session.Admits r.listener.data rx block i

/-- An event is no Transfer to a block outside the sector of the authentication. -/
def TransferInside (r : MfClassicRun) (event : MfClassicListenerEvent) : Prop :=
  ∀ rx ∈ r.plainFrame event, r.session.TransferInside r.listener.data rx

end MfClassicRun

def mfClassicSystem : System MfClassicRun MfClassicListenerEvent where
  step r event := (mfClassicListenerRun r.listener event).map fun (reply, listener) =>
    ⟨listener, r.nextSession event reply⟩

end FlipperZero
