import FlipperZero.Foundation.Overwrite
import Mathlib.Data.List.Basic

/-!
# The expansion protocol

Frames as they lie in memory, a packed struct of 66 bytes, and the two functions that send and
receive them. `expansionProtocolDecode` asks for bytes in stages: first the header, then as
much as the header announces, for a data frame first its size byte. Running over the end of
the frame buffer is a fault of the model, the outer `none`.
-/

namespace FlipperZero

open Foundation

inductive ExpansionFrameType where
  | heartbeat
  | status
  | baudRate
  | control
  | data
  deriving DecidableEq, Repr

def ExpansionFrameType.ofByte (b : UInt8) : Option ExpansionFrameType :=
  if b = 1 then some .heartbeat
  else if b = 2 then some .status
  else if b = 3 then some .baudRate
  else if b = 4 then some .control
  else if b = 5 then some .data
  else none

def expansionProtocolMaxDataSize : Nat := 64

/-- `sizeof(ExpansionFrame)`: the header, and the data contents as the largest of the union. -/
def sizeofExpansionFrame : Nat := 1 + (1 + expansionProtocolMaxDataSize)

/-- `ExpansionFrame`, the bytes of the packed struct. -/
@[ext] structure ExpansionFrame where
  bytes : List UInt8
  length_eq : bytes.length = sizeofExpansionFrame

namespace ExpansionFrame

/-- `header.type`. -/
def headerType (f : ExpansionFrame) : Option ExpansionFrameType :=
  ExpansionFrameType.ofByte (f.bytes.getD 0 0)

/-- `content.data.size`. -/
def dataSize (f : ExpansionFrame) : Nat := (f.bytes.getD 1 0).toNat

def store (f : ExpansionFrame) (offset : Nat) (bytes : List UInt8)
    (h : offset + bytes.length ≤ sizeofExpansionFrame) : ExpansionFrame where
  bytes := overwrite f.bytes offset bytes
  length_eq := by
    have hlen := f.length_eq
    rw [length_overwrite (by omega)]
    omega

def getEncodedSize (f : ExpansionFrame) : Nat :=
  match f.headerType with
  | some .heartbeat => 1
  | some .status    => 1 + 1
  | some .baudRate  => 1 + 4
  | some .control   => 1 + 1
  | some .data      => 1 + 1 + f.dataSize
  | none            => 0

/-- The switch of `expansion_frame_get_remaining_size`: the size of the contents as far as the
received part of them tells. -/
def contentSize (f : ExpansionFrame) (receivedContentSize : Nat) : Option Nat :=
  match f.headerType with
  | some .heartbeat => some 0
  | some .status    => some 1
  | some .baudRate  => some 4
  | some .control   => some 1
  | some .data      =>
    if receivedContentSize < 1 then some 1
    else if f.dataSize > expansionProtocolMaxDataSize then none
    else some (1 + f.dataSize)
  | none            => none

/-- `expansion_frame_get_remaining_size`, `none` where it returns false. -/
def getRemainingSize (f : ExpansionFrame) (receivedSize : Nat) : Option Nat :=
  if receivedSize < 1 then some 1
  else (f.contentSize (receivedSize - 1)).map fun size => size - (receivedSize - 1)

end ExpansionFrame

inductive ExpansionProtocolStatus where
  | ok
  | errorFormat
  | errorChecksum
  | errorCommunication
  deriving DecidableEq, Repr

def expansionProtocolGetChecksum (data : List UInt8) : UInt8 :=
  data.foldl (· ^^^ ·) 0

/-- A receive callback with its context. It hands out at most as many bytes as it is asked
for. -/
structure Receiver (σ : Type*) where
  receive : Nat → σ → List UInt8 × σ
  receive_le : ∀ size s, (receive size s).1.length ≤ size

/-- A send callback with its context: the number of bytes sent. -/
abbrev Sender (σ : Type*) := List UInt8 → σ → Nat × σ

/-- What a call of `expansion_protocol_decode` leaves behind. -/
structure DecodeResult (σ : Type*) where
  status : ExpansionProtocolStatus
  frame : ExpansionFrame
  context : σ

variable {σ : Type*}

/-- The receive loop of `expansion_protocol_decode`. The callback is given the part of the
frame buffer from `totalSize` on; a part that does not lie in the frame is a fault. On success
the number of bytes received comes with the result. -/
def decodeLoop (r : Receiver σ) (frame : ExpansionFrame) (totalSize : Nat) (s : σ) :
    Option (DecodeResult σ × Nat) :=
  match frame.getRemainingSize totalSize with
  | none               => some (⟨.errorFormat, frame, s⟩, totalSize)
  | some 0             => some (⟨.ok, frame, s⟩, totalSize)
  | some (remaining + 1) =>
    if hfit : totalSize + (remaining + 1) ≤ sizeofExpansionFrame then
      let received := r.receive (remaining + 1) s
      if received.1.length = 0 then
        some (⟨.errorCommunication, frame, received.2⟩, totalSize)
      else
        decodeLoop r
          (frame.store totalSize received.1
            (Nat.le_trans (Nat.add_le_add_left (r.receive_le _ _) _) hfit))
          (totalSize + received.1.length) received.2
    else none
termination_by sizeofExpansionFrame - totalSize
decreasing_by
  refine Nat.sub_lt_sub_left (by omega) (Nat.lt_add_of_pos_right (Nat.pos_of_ne_zero ?_))
  assumption

/-- The end of `expansion_protocol_decode`: receive the checksum and compare. -/
def decodeChecksum (r : Receiver σ) (frame : ExpansionFrame) (totalSize : Nat) (s : σ) :
    DecodeResult σ :=
  let received := r.receive 1 s
  { status :=
      if received.1.length ≠ 1 then .errorCommunication
      else if received.1 ≠ [expansionProtocolGetChecksum (frame.bytes.take totalSize)] then
        .errorChecksum
      else .ok
    frame := frame
    context := received.2 }

def expansionProtocolDecode (r : Receiver σ) (frame : ExpansionFrame) (s : σ) :
    Option (DecodeResult σ) :=
  (decodeLoop r frame 0 s).map fun (result, totalSize) =>
    if result.status = .ok then decodeChecksum r result.frame totalSize result.context
    else result

def expansionProtocolEncode (send : Sender σ) (frame : ExpansionFrame) (s : σ) :
    ExpansionProtocolStatus × σ :=
  let encodedSize := frame.getEncodedSize
  if encodedSize = 0 then (.errorFormat, s)
  else
    let checksum := expansionProtocolGetChecksum (frame.bytes.take encodedSize)
    let (sent, s) := send (frame.bytes.take encodedSize) s
    if sent ≠ encodedSize then (.errorCommunication, s)
    else
      let (sent, s) := send [checksum] s
      if sent ≠ 1 then (.errorCommunication, s) else (.ok, s)

/-- The send callback of a line that takes everything. -/
def sendAll : Sender (List UInt8) := fun data line => (data.length, line ++ data)

/-- The receive callback over a line that delivers its bytes in chunks: a call gets the rest
of the current chunk, as much of it as it asked for. -/
def receiveChunks : Receiver (List (List UInt8)) where
  receive size
    | []      => ([], [])
    | c :: cs => if c.length ≤ size then (c, cs) else (c.take size, c.drop size :: cs)
  receive_le size s := by
    cases s with
    | nil => exact Nat.zero_le _
    | cons c cs =>
      simp only
      split_ifs with h
      · exact h
      · exact List.length_take_le ..

/-- A receive callback that also keeps the bytes it has handed out. -/
def Receiver.logged (r : Receiver σ) : Receiver (σ × List UInt8) where
  receive size s := ((r.receive size s.1).1, (r.receive size s.1).2, s.2 ++ (r.receive size s.1).1)
  receive_le size s := r.receive_le size s.1

@[simp] lemma Receiver.logged_receive (r : Receiver σ) (size : Nat) (s : σ) (log : List UInt8) :
    r.logged.receive size (s, log) =
      ((r.receive size s).1, (r.receive size s).2, log ++ (r.receive size s).1) := rfl

/-- Call `expansion_protocol_decode` again and again on the same frame buffer. -/
def decodeMany (r : Receiver σ) :
    Nat → ExpansionFrame → σ → Option (List (ExpansionProtocolStatus × ExpansionFrame) × σ)
  | 0, _, s => some ([], s)
  | n + 1, frame, s => do
    let result ← expansionProtocolDecode r frame s
    let (rest, s) ← decodeMany r n result.frame result.context
    pure ((result.status, result.frame) :: rest, s)

end FlipperZero
