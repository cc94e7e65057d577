import FlipperZero.Nfc.Iso15693Memory

/-!
# What the ISO15693-3 listener touches

`frameAccesses` lists, along the branches of the handlers, the bytes of the request that are read,
the blocks that are looked at or changed, and what is appended to the transmit buffer. The list
accounts for the model of the listener: a run depends on no other byte of the frame.

Three of the handlers are not safe for every request. The multiple read and the security status of
several blocks fill the transmit buffer without a limit but the number of blocks, and the multiple
write takes the chunk of a block from behind the frame and goes on when the first block lies behind
the card.
-/

namespace FlipperZero

open Foundation

/-! ### Accesses -/

/-- One entry of the list. -/
inductive Iso15693_3Access where
  /-- A byte of the request is read. -/
  | request (index : Nat)
  /-- A block or its security status is read or written. -/
  | block (index : Nat)
  /-- Bytes are appended to the transmit buffer, behind those it holds. -/
  | append (length size : Nat)
  deriving DecidableEq, Repr

namespace Iso15693_3Access

/-- The entry does no harm for a request of a size and a card of some blocks. -/
def Safe (size blockCount : Nat) : Iso15693_3Access → Prop
  | .request i       => i < size
  | .block i         => i < blockCount
  | .append length n => length + n ≤ 256

variable {size blockCount index length n : Nat}

@[simp] lemma safe_request : (request index).Safe size blockCount ↔ index < size := .rfl

@[simp] lemma safe_block : (block index).Safe size blockCount ↔ index < blockCount := .rfl

@[simp] lemma safe_append : (append length n).Safe size blockCount ↔ length + n ≤ 256 := .rfl

instance (size blockCount : Nat) :
    ∀ access : Iso15693_3Access, Decidable (access.Safe size blockCount)
  | .request _  => inferInstanceAs (Decidable (_ < _))
  | .block _    => inferInstanceAs (Decidable (_ < _))
  | .append _ _ => inferInstanceAs (Decidable (_ ≤ _))

/-- The data of a handler start behind the head of the frame. -/
def shift (offset : Nat) : Iso15693_3Access → Iso15693_3Access
  | .request i => .request (offset + i)
  | access     => access

end Iso15693_3Access

open Iso15693_3Access

namespace Iso15693_3Listener

variable (l : Iso15693_3Listener) (data : Memory) (dataSize : Nat) (flags : BitVec 8)

/-! ### The handlers

The transmit buffer holds one byte when a handler starts. -/

/-- `iso15693_3_listener_inventory_handler`. -/
def inventoryAccesses : List Iso15693_3Access :=
  let afiFlag := flags.getLsbD 4
  let dataSizeMin := if afiFlag then 2 else 1
  if dataSize < dataSizeMin then []
  else
    (if afiFlag then [request 0] else []) ++
    if afiFlag ∧ data 0 ≠ 0 ∧ data 0 ≠ l.data.systemInfo.afi then []
    else
      let maskLen := (data (if afiFlag then 1 else 0)).toNat
      request (if afiFlag then 1 else 0) ::
        if dataSize ≠ dataSizeMin + maskLen then [] else [.append 1 1, .append 2 8]

/-- No security status can be appended: the card has none. -/
def statusMissing (blockNum : Nat) : Bool :=
  flags.getLsbD 6 && (l.data.blockSecurity.cget (blockNum % 256) 1).isNone

def answerLength : Nat := (if flags.getLsbD 6 then 1 else 0) + l.data.blockSize

/-- The answer of the read requests for one block. -/
def appendBlockAnswerAccesses (blockNum length : Nat) : List Iso15693_3Access :=
  if flags.getLsbD 6 then
    .block (blockNum % 256) ::
      if l.statusMissing flags blockNum then []
      else
        [.append length 1, .block (blockNum % 256), .append (length + 1) l.data.blockSize]
  else [.block (blockNum % 256), .append length l.data.blockSize]

/-- `iso15693_3_listener_read_block_handler`. -/
def readBlockAccesses : List Iso15693_3Access :=
  if dataSize ≠ 1 then []
  else
    request 0 ::
      if l.data.blockCount ≤ (data 0).toNat then []
      else l.appendBlockAnswerAccesses flags (data 0).toNat 1

/-- `iso15693_3_listener_write_block_handler`. -/
def writeBlockAccesses : List Iso15693_3Access :=
  if dataSize ≤ 1 then []
  else
    let blockIndex := (data 0).toNat
    request 0 ::
      if l.data.blockCount ≤ blockIndex then []
      else if dataSize - 1 ≠ l.data.blockSize then []
      else
        .block (blockIndex % 256) ::
          if l.data.isBlockLocked blockIndex = some false then
            ((List.range (dataSize - 1)).map fun j => request (1 + j)) ++
              [.block (blockIndex % 256)]
          else []

/-- `iso15693_3_listener_lock_block_handler`. -/
def lockBlockAccesses : List Iso15693_3Access :=
  if dataSize ≠ 1 then []
  else
    let blockIndex := (data 0).toNat
    request 0 ::
      if l.data.blockCount ≤ blockIndex then []
      else
        .block (blockIndex % 256) ::
          if l.data.isBlockLocked blockIndex = some false then [.block (blockIndex % 256)] else []

/-- The loop of the multiple read. -/
def appendBlocksAccesses : List Nat → Nat → List Iso15693_3Access
  | [], _           => []
  | i :: is, length =>
    l.appendBlockAnswerAccesses flags i length ++
      if l.statusMissing flags i then []
      else appendBlocksAccesses is (length + l.answerLength flags)

def readMultiBlocksEnd : Nat :=
  min ((data 0).toNat + (data 1).toNat + 1) (asUInt32 (l.data.blockCount - 1))

/-- `iso15693_3_listener_read_multi_blocks_handler`. -/
def readMultiBlocksAccesses : List Iso15693_3Access :=
  if dataSize ≠ 2 then []
  else
    request 0 :: request 1 ::
      l.appendBlocksAccesses flags
        (List.range' (data 0).toNat (l.readMultiBlocksEnd data + 1 - (data 0).toNat)) 1

/-- The first loop of the multiple write. -/
def anyBlockLockedAccesses (card : Iso15693_3Data) : List Nat → List Iso15693_3Access
  | []      => []
  | i :: is =>
    .block (i % 256) ::
      if card.isBlockLocked i = some false then anyBlockLockedAccesses card is else []

/-- The second loop of the multiple write. -/
def setBlocksAccesses (blockSize : Nat) (is : List Nat) : List Iso15693_3Access :=
  is.flatMap fun i =>
    ((List.range blockSize).map fun j => request (2 + blockSize * i + j)) ++ [.block (i % 256)]

/-- `iso15693_3_listener_write_multi_blocks_handler`. -/
def writeMultiBlocksAccesses : List Iso15693_3Access :=
  if dataSize ≤ 2 then []
  else
    let blockIndexStart := (data 0).toNat
    let blockCount := (data 1).toNat + 1
    let blockSize := (dataSize - 2) / blockCount
    let blocks := List.range' blockIndexStart blockCount
    request 0 :: request 1 ::
      if asUInt32 (l.data.blockCount - blockIndexStart) < blockCount then []
      else if blockSize ≠ l.data.blockSize then []
      else
        anyBlockLockedAccesses l.data blocks ++
          if anyBlockLocked l.data blocks = some false then setBlocksAccesses blockSize blocks
          else []

/-- `iso15693_3_listener_write_afi_handler` and `iso15693_3_listener_write_dsfid_handler`. -/
def writeByteAccesses (locked : Bool) : List Iso15693_3Access :=
  if dataSize ≤ 1 then [] else if locked then [] else [request 0]

/-- The fields of the system information, by their flags and sizes. -/
def appendFieldsAccesses : List (Bool × Nat) → Nat → List Iso15693_3Access
  | [], _                   => []
  | (flag, n) :: fs, length =>
    if flag then .append length n :: appendFieldsAccesses fs (length + n)
    else appendFieldsAccesses fs length

/-- `iso15693_3_listener_get_system_info_handler`. -/
def getSystemInfoAccesses : List Iso15693_3Access :=
  let flags := l.data.systemInfo.flags
  .append 1 1 :: .append 2 8 :: appendFieldsAccesses
    [(flags.getLsbD 0, 1), (flags.getLsbD 1, 1), (flags.getLsbD 2, 2), (flags.getLsbD 3, 1)] 10

/-- The loop over the security status. -/
def appendBlocksLockedAccesses : List Nat → Nat → List Iso15693_3Access
  | [], _           => []
  | i :: is, length =>
    .block (i % 256) :: .append length 1 :: appendBlocksLockedAccesses is (length + 1)

/-- `iso15693_3_listener_get_multi_blocks_security_handler`. -/
def getMultiBlocksSecurityAccesses : List Iso15693_3Access :=
  if dataSize < 2 then []
  else
    request 0 :: request 1 ::
      if l.data.blockCount ≤ (data 0).toNat + (data 1).toNat then []
      else appendBlocksLockedAccesses (List.range' (data 0).toNat ((data 1).toNat + 1)) 1

/-! ### Requests -/

/-- The handlers of `iso15693_3_handler_table`. -/
def handlerAccesses (command : BitVec 8) : List Iso15693_3Access :=
  match command with
  | 0x01#8 => l.inventoryAccesses data dataSize flags
  | 0x20#8 => l.readBlockAccesses data dataSize flags
  | 0x21#8 => l.writeBlockAccesses data dataSize
  | 0x22#8 => l.lockBlockAccesses data dataSize
  | 0x23#8 => l.readMultiBlocksAccesses data dataSize flags
  | 0x24#8 => l.writeMultiBlocksAccesses data dataSize
  | 0x27#8 => writeByteAccesses dataSize l.data.lockBits.afi
  | 0x29#8 => writeByteAccesses dataSize l.data.lockBits.dsfid
  | 0x2B#8 => l.getSystemInfoAccesses
  | 0x2C#8 => l.getMultiBlocksSecurityAccesses data dataSize
  | _      => []

/-- `iso15693_3_listener_send_frame`: the CRC is appended. -/
def sendFrameAccesses (length : Nat) : List Iso15693_3Access := [.append length 2]

/-- The second half of `iso15693_3_listener_handle_standard_request`. -/
def answerAccesses (error : Iso15693_3Error) : List Iso15693_3Access :=
  if error = .format ∨ error = .ignore then []
  else
    (if error = .none then [] else [.append 0 1, .append 1 1]) ++
      if l.sessionState.waitForEof then []
      else sendFrameAccesses (if error = .none then l.txBuffer.length else 2)

/-- `iso15693_3_listener_handle_standard_request`. -/
def handleStandardRequestAccesses (command : BitVec 8) : List Iso15693_3Access :=
  match { l with txBuffer := [0] }.handler data dataSize flags command with
  | none        => []
  | some result =>
    .append 0 1 :: (l.handlerAccesses data dataSize flags command ++
      match result with
      | none            => []
      | some (error, l) => l.answerAccesses error)

/-- `iso15693_3_listener_handle_custom_request`. -/
def handleCustomRequestAccesses : List Iso15693_3Access := if dataSize < 1 then [] else [request 0]

/-- `iso15693_3_is_equal_uid`: the comparison may end before the last byte. -/
def isEqualUidAccesses : List Iso15693_3Access := (List.range 8).map request

/-- `iso15693_3_listener_process_request`, with `iso15693_3_listener_process_uid_mismatch`. -/
def processRequestAccesses (rxBuffer : Memory) (bufSize : Nat) : List Iso15693_3Access :=
  if bufSize < 2 then []
  else
    let flags := rxBuffer 0
    let command := rxBuffer 1
    let (error, l) := l.selectMode flags
    request 0 :: request 1 ::
      if error ≠ .none then []
      else if 0xA0 ≤ command.toNat then (handleCustomRequestAccesses (bufSize - 2)).map (shift 2)
      else if l.sessionState.addressed then
        if bufSize < 10 then []
        else
          isEqualUidAccesses.map (shift 2) ++
            if l.data.isEqualUid (fun i => rxBuffer (2 + i)) = false then [request 1]
            else
              (l.handleStandardRequestAccesses (fun i => rxBuffer (10 + i)) (bufSize - 10) flags
                command).map (shift 10)
      else
        (l.handleStandardRequestAccesses (fun i => rxBuffer (2 + i)) (bufSize - 2) flags
          command).map (shift 2)

/-- `iso15693_3_listener_run` on a frame with a right CRC. -/
def frameAccesses (rxBuffer : Memory) (bufSize : Nat) : List Iso15693_3Access :=
  { l with txBuffer := [] }.processRequestAccesses rxBuffer bufSize

/-! ### A run depends on no other byte -/

variable {l : Iso15693_3Listener} {data data' : Memory} {dataSize : Nat} {flags : BitVec 8}
  {bytes : List (BitVec 8)}

/-- Two requests hold the same bytes where the accesses read them. -/
def SameBytes (accesses : List Iso15693_3Access) (data data' : Memory) : Prop :=
  ∀ i, request i ∈ accesses → data i = data' i

lemma SameBytes.mono {accesses accesses' : List Iso15693_3Access}
    (h : SameBytes accesses data data') (hsubset : accesses' ⊆ accesses) :
    SameBytes accesses' data data' := fun i hi => h i (hsubset hi)

lemma inventoryHandler_congr (h : SameBytes (l.inventoryAccesses data dataSize flags) data data') :
    { l with txBuffer := bytes }.inventoryHandler data dataSize flags =
      { l with txBuffer := bytes }.inventoryHandler data' dataSize flags := by
  unfold inventoryHandler
  unfold inventoryAccesses at h
  dsimp only at h ⊢
  by_cases hsize : dataSize < if flags.getLsbD 4 = true then 2 else 1
  · rw [if_pos hsize, if_pos hsize]
  rw [if_neg hsize] at h
  have hafi (hflag : flags.getLsbD 4 = true) : data 0 = data' 0 :=
    h 0 (List.mem_append_left _ (by rw [if_pos hflag]; exact List.mem_singleton_self _))
  have hignored : (flags.getLsbD 4 = true ∧ data 0 ≠ 0 ∧ data 0 ≠ l.data.systemInfo.afi) ↔
      (flags.getLsbD 4 = true ∧ data' 0 ≠ 0 ∧ data' 0 ≠ l.data.systemInfo.afi) :=
    and_congr_right fun hflag => by rw [hafi hflag]
  rw [if_neg hsize, if_neg hsize]
  by_cases hother : flags.getLsbD 4 = true ∧ data 0 ≠ 0 ∧ data 0 ≠ l.data.systemInfo.afi
  · rw [if_pos hother, if_pos (hignored.mp hother)]
  · have hmask := h _ (List.mem_append_right _ (by rw [if_neg hother]; exact List.mem_cons_self))
    rw [if_neg hother, if_neg (mt hignored.mpr hother), hmask]

lemma readBlockHandler_congr (h : SameBytes (l.readBlockAccesses data dataSize flags) data data') :
    { l with txBuffer := bytes }.readBlockHandler data dataSize flags =
      { l with txBuffer := bytes }.readBlockHandler data' dataSize flags := by
  unfold readBlockHandler
  unfold readBlockAccesses at h
  by_cases hsize : dataSize ≠ 1
  · rw [if_pos hsize, if_pos hsize]
  · rw [if_neg hsize] at h
    rw [if_neg hsize, if_neg hsize, h 0 List.mem_cons_self]

lemma writeBlockHandler_congr (h : SameBytes (l.writeBlockAccesses data dataSize) data data') :
    { l with txBuffer := bytes }.writeBlockHandler data dataSize flags =
      { l with txBuffer := bytes }.writeBlockHandler data' dataSize flags := by
  unfold writeBlockHandler
  unfold writeBlockAccesses at h
  dsimp only at h ⊢
  by_cases hsize : dataSize ≤ 1
  · rw [if_pos hsize, if_pos hsize]
  rw [if_neg hsize] at h
  rw [if_neg hsize, if_neg hsize, ← h 0 List.mem_cons_self]
  refine ite_congr rfl (fun _ => rfl) fun hblock => ite_congr rfl (fun _ => rfl) fun hblockSize => ?_
  replace hblock : ¬ l.data.blockCount ≤ (data 0).toNat := hblock
  replace hblockSize : ¬ dataSize - 1 ≠ l.data.blockSize := hblockSize
  rw [if_neg hblock, if_neg hblockSize] at h
  refine Option.bind_congr fun locked hlocked => ?_
  replace hlocked : l.data.isBlockLocked (data 0).toNat = some locked := hlocked
  cases locked with
  | true => rfl
  | false =>
    have hchunk : ((List.range (dataSize - 1)).map fun j => data (1 + j)) =
        (List.range (dataSize - 1)).map fun j => data' (1 + j) := by
      refine List.map_congr_left fun j hj => h (1 + j) ?_
      rw [if_pos hlocked]
      exact List.mem_cons_of_mem _ (List.mem_cons_of_mem _
        (List.mem_append_left _ (List.mem_map.mpr ⟨j, hj, rfl⟩)))
    rw [hchunk]

lemma lockBlockHandler_congr (h : SameBytes (l.lockBlockAccesses data dataSize) data data') :
    { l with txBuffer := bytes }.lockBlockHandler data dataSize flags =
      { l with txBuffer := bytes }.lockBlockHandler data' dataSize flags := by
  unfold lockBlockHandler
  unfold lockBlockAccesses at h
  dsimp only at h ⊢
  by_cases hsize : dataSize ≠ 1
  · rw [if_pos hsize, if_pos hsize]
  · rw [if_neg hsize] at h
    rw [if_neg hsize, if_neg hsize, h 0 List.mem_cons_self]

lemma readMultiBlocksHandler_congr
    (h : SameBytes (l.readMultiBlocksAccesses data dataSize flags) data data') :
    { l with txBuffer := bytes }.readMultiBlocksHandler data dataSize flags =
      { l with txBuffer := bytes }.readMultiBlocksHandler data' dataSize flags := by
  unfold readMultiBlocksHandler
  unfold readMultiBlocksAccesses at h
  dsimp only at h ⊢
  by_cases hsize : dataSize ≠ 2
  · rw [if_pos hsize, if_pos hsize]
  · rw [if_neg hsize] at h
    rw [if_neg hsize, if_neg hsize, h 0 List.mem_cons_self,
      h 1 (List.mem_cons_of_mem _ List.mem_cons_self)]

lemma getMultiBlocksSecurityHandler_congr
    (h : SameBytes (l.getMultiBlocksSecurityAccesses data dataSize) data data') :
    { l with txBuffer := bytes }.getMultiBlocksSecurityHandler data dataSize =
      { l with txBuffer := bytes }.getMultiBlocksSecurityHandler data' dataSize := by
  unfold getMultiBlocksSecurityHandler
  unfold getMultiBlocksSecurityAccesses at h
  dsimp only at h ⊢
  by_cases hsize : dataSize < 2
  · rw [if_pos hsize, if_pos hsize]
  · rw [if_neg hsize] at h
    rw [if_neg hsize, if_neg hsize, h 0 List.mem_cons_self,
      h 1 (List.mem_cons_of_mem _ List.mem_cons_self)]

lemma setBlocks_congr {chunk chunk' : Nat → List (BitVec 8)} {is : List Nat}
    (h : ∀ i ∈ is, chunk i = chunk' i) : setBlocks chunk is = setBlocks chunk' is := by
  funext card
  induction is generalizing card with
  | nil => rfl
  | cons i is ih =>
    rw [setBlocks, setBlocks, h i List.mem_cons_self,
      funext (ih fun j hj => h j (List.mem_cons_of_mem _ hj))]

lemma writeMultiBlocksHandler_congr
    (h : SameBytes (l.writeMultiBlocksAccesses data dataSize) data data') :
    { l with txBuffer := bytes }.writeMultiBlocksHandler data dataSize flags =
      { l with txBuffer := bytes }.writeMultiBlocksHandler data' dataSize flags := by
  unfold writeMultiBlocksHandler
  unfold writeMultiBlocksAccesses at h
  dsimp only at h ⊢
  by_cases hsize : dataSize ≤ 2
  · rw [if_pos hsize, if_pos hsize]
  rw [if_neg hsize] at h
  rw [if_neg hsize, if_neg hsize, ← h 0 List.mem_cons_self,
    ← h 1 (List.mem_cons_of_mem _ List.mem_cons_self)]
  refine ite_congr rfl (fun _ => rfl) fun havailable => ite_congr rfl (fun _ => rfl) fun hsame => ?_
  replace havailable : ¬ asUInt32 (l.data.blockCount - (data 0).toNat) < (data 1).toNat + 1 :=
    havailable
  replace hsame : ¬ (dataSize - 2) / ((data 1).toNat + 1) ≠ l.data.blockSize := hsame
  rw [if_neg havailable, if_neg hsame] at h
  refine Option.bind_congr fun locked hlocked => ?_
  replace hlocked : anyBlockLocked l.data (List.range' (data 0).toNat ((data 1).toNat + 1)) =
    some locked := hlocked
  cases locked with
  | true => rfl
  | false =>
    refine congrArg (· >>= _) (congrFun (setBlocks_congr fun i hi => ?_) _)
    refine List.map_congr_left fun j hj => h _ ?_
    rw [if_pos hlocked]
    exact List.mem_cons_of_mem _ (List.mem_cons_of_mem _ (List.mem_append_right _
      (List.mem_flatMap.mpr ⟨i, hi, List.mem_append_left _ (List.mem_map.mpr ⟨j, hj, rfl⟩)⟩)))

lemma writeAfiHandler_congr
    (h : SameBytes (writeByteAccesses dataSize l.data.lockBits.afi) data data') :
    { l with txBuffer := bytes }.writeAfiHandler data dataSize flags =
      { l with txBuffer := bytes }.writeAfiHandler data' dataSize flags := by
  unfold writeAfiHandler
  unfold writeByteAccesses at h
  refine ite_congr rfl (fun _ => rfl) fun hsize => ite_congr rfl (fun _ => rfl) fun hlocked => ?_
  replace hlocked : ¬ l.data.lockBits.afi = true := hlocked
  rw [if_neg hsize, if_neg hlocked] at h
  rw [h 0 List.mem_cons_self]

lemma writeDsfidHandler_congr
    (h : SameBytes (writeByteAccesses dataSize l.data.lockBits.dsfid) data data') :
    { l with txBuffer := bytes }.writeDsfidHandler data dataSize flags =
      { l with txBuffer := bytes }.writeDsfidHandler data' dataSize flags := by
  unfold writeDsfidHandler
  unfold writeByteAccesses at h
  refine ite_congr rfl (fun _ => rfl) fun hsize => ite_congr rfl (fun _ => rfl) fun hlocked => ?_
  replace hlocked : ¬ l.data.lockBits.dsfid = true := hlocked
  rw [if_neg hsize, if_neg hlocked] at h
  rw [h 0 List.mem_cons_self]

lemma handler_congr {command : BitVec 8}
    (h : SameBytes (l.handlerAccesses data dataSize flags command) data data') :
    { l with txBuffer := bytes }.handler data dataSize flags command =
      { l with txBuffer := bytes }.handler data' dataSize flags command := by
  unfold handler
  split
  · exact congrArg some (inventoryHandler_congr h)
  · rfl
  · exact congrArg some (readBlockHandler_congr h)
  · exact congrArg some (writeBlockHandler_congr h)
  · exact congrArg some (lockBlockHandler_congr h)
  · exact congrArg some (readMultiBlocksHandler_congr h)
  · exact congrArg some (writeMultiBlocksHandler_congr h)
  · rfl
  · rfl
  · exact congrArg some (writeAfiHandler_congr h)
  · rfl
  · exact congrArg some (writeDsfidHandler_congr h)
  · rfl
  · rfl
  · exact congrArg some (getMultiBlocksSecurityHandler_congr h)
  · rfl

lemma handleStandardRequest_congr {command : BitVec 8}
    (h : SameBytes (l.handleStandardRequestAccesses data dataSize flags command) data data') :
    l.handleStandardRequest data dataSize flags command =
      l.handleStandardRequest data' dataSize flags command := by
  have hhandler : { l with txBuffer := [0] }.handler data dataSize flags command =
      { l with txBuffer := [0] }.handler data' dataSize flags command := by
    rw [handleStandardRequestAccesses] at h
    cases hresult : { l with txBuffer := [0] }.handler data dataSize flags command with
    | none =>
      -- there is no handler for the command
      unfold handler at hresult ⊢
      split at hresult
      case h_16 => simp_all
      all_goals cases hresult
    | some result =>
      rw [hresult] at h
      rw [← hresult]
      exact handler_congr (h.mono (List.subset_cons_of_subset _ (List.subset_append_left ..)))
  unfold handleStandardRequest
  rw [hhandler]

lemma isEqualUid_congr (h : ∀ i < 8, data i = data' i) :
    l.data.isEqualUid data = l.data.isEqualUid data' := by
  unfold Iso15693_3Data.isEqualUid
  congr 1
  funext i
  rw [h _ (by omega)]

lemma sameBytes_shift {accesses : List Iso15693_3Access} {offset : Nat} {rxBuffer rxBuffer' : Memory}
    (h : SameBytes (accesses.map (shift offset)) rxBuffer rxBuffer') :
    SameBytes accesses (fun i => rxBuffer (offset + i)) fun i => rxBuffer' (offset + i) :=
  fun i hi => h (offset + i) (List.mem_map.mpr ⟨request i, hi, rfl⟩)

lemma processRequest_congr {rxBuffer rxBuffer' : Memory} {size : Nat}
    (h : SameBytes (l.processRequestAccesses rxBuffer size) rxBuffer rxBuffer') :
    l.processRequest rxBuffer size = l.processRequest rxBuffer' size := by
  unfold processRequest
  unfold processRequestAccesses at h
  dsimp only at h ⊢
  by_cases htwo : size < 2
  · rw [if_pos htwo, if_pos htwo]
  rw [if_neg htwo] at h
  rw [if_neg htwo, if_neg htwo, ← h 0 List.mem_cons_self,
    ← h 1 (List.mem_cons_of_mem _ List.mem_cons_self)]
  replace h := h.mono (List.subset_cons_of_subset _ (List.subset_cons_self ..))
  refine ite_congr rfl (fun _ => rfl) fun hmode => ?_
  rw [if_neg hmode] at h
  by_cases hcustom : 0xA0 ≤ (rxBuffer 1).toNat
  · rw [if_pos hcustom] at h
    rw [if_pos hcustom, if_pos hcustom]
    have hcustomRequest := sameBytes_shift h
    unfold handleCustomRequest
    unfold handleCustomRequestAccesses at hcustomRequest
    by_cases hone : size - 2 < 1
    · rw [if_pos hone, if_pos hone]
    · rw [if_neg hone] at hcustomRequest
      rw [if_neg hone, if_neg hone, hcustomRequest 0 List.mem_cons_self]
  rw [if_neg hcustom] at h
  rw [if_neg hcustom, if_neg hcustom]
  refine ite_congr rfl (fun haddressed => ite_congr rfl (fun _ => rfl) fun hten => ?_)
    fun haddressed => ?_
  · rw [if_pos haddressed, if_neg hten] at h
    have huid : (l.selectMode (rxBuffer 0)).2.data.isEqualUid (fun i => rxBuffer (2 + i)) =
        (l.selectMode (rxBuffer 0)).2.data.isEqualUid fun i => rxBuffer' (2 + i) := by
      refine isEqualUid_congr fun i hi => ?_
      exact sameBytes_shift (h.mono (List.subset_append_left ..)) i
        (List.mem_map.mpr ⟨i, List.mem_range.mpr hi, rfl⟩)
    rw [← huid]
    refine ite_congr rfl (fun _ => rfl) fun hequal => ?_
    rw [if_neg hequal] at h
    exact handleStandardRequest_congr (sameBytes_shift (h.mono (List.subset_append_right ..)))
  · rw [if_neg haddressed] at h
    exact handleStandardRequest_congr (sameBytes_shift h)

/-- A run depends on the bytes of the frame that are in the list, and on no others. -/
theorem run_congr {rxBuffer rxBuffer' : Memory} {size : Nat}
    (h : SameBytes (l.frameAccesses rxBuffer size) rxBuffer rxBuffer') :
    l.run (.frame rxBuffer size) = l.run (.frame rxBuffer' size) := by
  have hrequest := processRequest_congr h
  unfold run
  dsimp only
  rw [← hrequest]
  refine Option.map_congr fun (reply, l₁) hresult => congrArg (Prod.mk reply) ?_
  refine ite_congr rfl (fun hmismatch => ?_) fun _ => rfl
  by_cases htwo : size < 2
  · -- a frame that is too short is not compared
    rw [processRequest, if_pos htwo] at hresult
    cases hresult
    cases hmismatch
  · have hcommand : rxBuffer 1 = rxBuffer' 1 := by
      refine h 1 ?_
      rw [frameAccesses, processRequestAccesses, if_neg htwo]
      exact List.mem_cons_of_mem _ List.mem_cons_self
    rw [processUidMismatch, processUidMismatch, hcommand]

end Iso15693_3Listener

end FlipperZero
