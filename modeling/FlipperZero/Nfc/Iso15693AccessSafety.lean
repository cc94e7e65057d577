import FlipperZero.Nfc.Iso15693Accesses
import FlipperZero.Nfc.Iso15693Session

/-!
# Which requests the ISO15693-3 listener handles within its bounds

Every request stays within the frame, the blocks of the card and the transmit buffer, but for the
three requests for several blocks, each of which needs a condition.
-/

namespace FlipperZero

open Foundation Iso15693_3Access

namespace Iso15693_3Listener

/-- The bytes that are sent behind an answer that is not put off: the CRC. -/
def crcLength (l : Iso15693_3Listener) : Nat := if l.sessionState.waitForEof then 0 else 2

/-- What keeps the requests for several blocks within bounds. -/
structure RequestInside (l : Iso15693_3Listener) (r : Iso15693_3Request) : Prop where
  /-- The answer with the CRC fits into the transmit buffer. -/
  readMultiBlocks : r.command = 0x23 → r.dataSize = 2 →
    (r.flags.getLsbD 6 = true → l.data.blockSecurity.count ≠ 0) →
    1 + (l.readMultiBlocksEnd r.data + 1 - r.start) * l.answerLength r.flags + l.crcLength ≤ 256
  /-- The first block is not behind the card. -/
  writeMultiBlocks : r.command = 0x24 → 2 < r.dataSize →
    r.count ≤ asUInt32 (l.data.blockCount - r.start) →
    (r.dataSize - 2) / r.count = l.data.blockSize → r.start ≤ l.data.blockCount
  /-- The request holds chunks for all blocks from block 0 on. -/
  writeMultiChunks : r.command = 0x24 → l.AcceptsWriteMulti r →
    2 + l.data.blockSize * (r.start + r.count) ≤ r.dataSize
  /-- One byte for each block and the CRC fit into the transmit buffer. -/
  getMultiBlocksSecurity : r.command = 0x2C → 2 ≤ r.dataSize →
    r.start + r.count ≤ l.data.blockCount → 1 + r.count + l.crcLength ≤ 256

/-- All entries do no harm. -/
def AllSafe (size blockCount : Nat) (accesses : List Iso15693_3Access) : Prop :=
  ∀ access ∈ accesses, access.Safe size blockCount

variable {l l' : Iso15693_3Listener} {data : Memory} {size dataSize blockCount length : Nat}
  {flags command : BitVec 8} {error : Iso15693_3Error} {i : Nat} {is : List Nat}
  {access : Iso15693_3Access} {accesses accesses' : List Iso15693_3Access}

@[simp] lemma allSafe_nil : AllSafe size blockCount [] := List.forall_mem_nil _

@[simp] lemma allSafe_cons : AllSafe size blockCount (access :: accesses) ↔
    access.Safe size blockCount ∧ AllSafe size blockCount accesses := List.forall_mem_cons

@[simp] lemma allSafe_append : AllSafe size blockCount (accesses ++ accesses') ↔
    AllSafe size blockCount accesses ∧ AllSafe size blockCount accesses' := List.forall_mem_append

/-- The head of the frame lies in front of the data of the handler. -/
lemma allSafe_shift {offset : Nat} (hoffset : offset ≤ size) :
    AllSafe size blockCount (accesses.map (shift offset)) ↔
      AllSafe (size - offset) blockCount accesses := by
  unfold AllSafe
  rw [List.forall_mem_map]
  refine forall₂_congr fun access _ => ?_
  cases access with
  | request i =>
    simp only [shift, safe_request]
    omega
  | block i => exact Iff.rfl
  | append length n => exact Iff.rfl

/-! ### The handlers that are always safe -/

lemma inventoryAccesses_safe :
    AllSafe dataSize blockCount (l.inventoryAccesses data dataSize flags) := by
  unfold inventoryAccesses
  dsimp only
  split_ifs <;> simp_all <;> omega

lemma appendBlockAnswerAccesses_safe (hi : i < blockCount) (hcount : blockCount ≤ 256)
    (hlength : length + l.answerLength flags ≤ 256) :
    AllSafe size blockCount (l.appendBlockAnswerAccesses flags i length) := by
  have hmod : i % 256 = i := Nat.mod_eq_of_lt (Nat.lt_of_lt_of_le hi hcount)
  unfold appendBlockAnswerAccesses
  unfold answerLength at hlength
  split_ifs at hlength ⊢ with hoption hmissing
  · simpa [hmod] using hi
  · simp only [allSafe_cons, safe_block, safe_append, hmod, allSafe_nil, and_true]
    omega
  · simp only [allSafe_cons, safe_block, safe_append, hmod, allSafe_nil, and_true]
    omega

lemma answerLength_le (hsize : l.data.blockSize ≤ 32) : l.answerLength flags ≤ 33 := by
  unfold answerLength
  split_ifs <;> omega

lemma readBlockAccesses_safe (hcount : l.data.blockCount ≤ 256) (hsize : l.data.blockSize ≤ 32) :
    AllSafe dataSize l.data.blockCount (l.readBlockAccesses data dataSize flags) := by
  have hlength : l.answerLength flags ≤ 33 := answerLength_le hsize
  unfold readBlockAccesses
  split_ifs with hone hblock
  · exact allSafe_nil
  · simp only [allSafe_cons, safe_request, allSafe_nil, and_true]
    omega
  · rw [allSafe_cons]
    exact ⟨by rw [safe_request]; omega,
      appendBlockAnswerAccesses_safe (Nat.lt_of_not_le hblock) hcount (by omega)⟩

lemma writeBlockAccesses_safe :
    AllSafe dataSize l.data.blockCount (l.writeBlockAccesses data dataSize) := by
  unfold writeBlockAccesses
  dsimp only
  split_ifs with hone hblock hsize hlocked
  · exact allSafe_nil
  · simp only [allSafe_cons, safe_request, allSafe_nil, and_true]
    omega
  · simp only [allSafe_cons, safe_request, allSafe_nil, and_true]
    omega
  · have hmod : (data 0).toNat % 256 = (data 0).toNat := Nat.mod_eq_of_lt (data 0).isLt
    simp only [allSafe_cons, allSafe_append, safe_request, safe_block, allSafe_nil, and_true, hmod]
    refine ⟨by omega, by omega, fun access haccess => ?_, by omega⟩
    obtain ⟨j, hj, rfl⟩ := List.mem_map.mp haccess
    have hj := List.mem_range.mp hj
    rw [safe_request]
    omega
  · have hmod : (data 0).toNat % 256 = (data 0).toNat := Nat.mod_eq_of_lt (data 0).isLt
    simp only [allSafe_cons, safe_request, safe_block, allSafe_nil, and_true, hmod]
    omega

lemma lockBlockAccesses_safe :
    AllSafe dataSize l.data.blockCount (l.lockBlockAccesses data dataSize) := by
  have hmod : (data 0).toNat % 256 = (data 0).toNat := Nat.mod_eq_of_lt (data 0).isLt
  unfold lockBlockAccesses
  dsimp only
  split_ifs with hone hblock hlocked <;>
    simp only [allSafe_cons, safe_request, safe_block, allSafe_nil, and_true, hmod] <;> omega

lemma writeByteAccesses_safe {locked : Bool} :
    AllSafe dataSize blockCount (writeByteAccesses dataSize locked) := by
  unfold writeByteAccesses
  split_ifs with hone hlocked
  · exact allSafe_nil
  · exact allSafe_nil
  · simp only [allSafe_cons, safe_request, allSafe_nil, and_true]
    omega

lemma getSystemInfoAccesses_safe : AllSafe dataSize blockCount l.getSystemInfoAccesses := by
  unfold getSystemInfoAccesses
  simp only [appendFieldsAccesses]
  split_ifs <;> simp

/-! ### The multiple read -/

lemma statusMissing_iff (hi : i < l.data.blockCount) (hcount : l.data.blockCount ≤ 256) :
    l.statusMissing flags i = true ↔ flags.getLsbD 6 = true ∧ l.data.blockSecurity.count = 0 := by
  have hmod : i % 256 = i := Nat.mod_eq_of_lt (Nat.lt_of_lt_of_le hi hcount)
  have hsecurity := l.data.count_blockSecurity
  rw [← Iso15693_3Data.blockCount] at hsecurity
  rw [statusMissing, Bool.and_eq_true, hmod, SimpleArray.cget]
  refine and_congr_right fun _ => ?_
  split_ifs with hlt
  · simp only [Option.isNone_some, Bool.false_eq_true, false_iff]
    omega
  · simp only [Option.isNone_none, true_iff]
    omega

lemma appendBlocksAccesses_of_missing (his : ∀ i ∈ is, i < l.data.blockCount)
    (hcount : l.data.blockCount ≤ 256) (hoption : flags.getLsbD 6 = true)
    (hmissing : l.data.blockSecurity.count = 0) :
    AllSafe size l.data.blockCount (l.appendBlocksAccesses flags is length) := by
  cases is with
  | nil => exact allSafe_nil
  | cons i is =>
    have hi := his i List.mem_cons_self
    have hstop : l.statusMissing flags i = true :=
      (statusMissing_iff hi hcount).mpr ⟨hoption, hmissing⟩
    have hmod : i % 256 = i := Nat.mod_eq_of_lt (Nat.lt_of_lt_of_le hi hcount)
    rw [appendBlocksAccesses, if_pos hstop, List.append_nil, appendBlockAnswerAccesses,
      if_pos hoption, if_pos hstop, allSafe_cons, safe_block, hmod]
    exact ⟨hi, allSafe_nil⟩

lemma appendBlocksAccesses_safe_iff (his : ∀ i ∈ is, i < l.data.blockCount)
    (hcount : l.data.blockCount ≤ 256)
    (hstatus : flags.getLsbD 6 = true → l.data.blockSecurity.count ≠ 0) (hlength : length ≤ 256) :
    AllSafe size l.data.blockCount (l.appendBlocksAccesses flags is length) ↔
      length + is.length * l.answerLength flags ≤ 256 := by
  induction is generalizing length with
  | nil => simpa [appendBlocksAccesses] using hlength
  | cons i is ih =>
    have hi := his i List.mem_cons_self
    have hgo : ¬ l.statusMissing flags i = true := fun hstop => by
      obtain ⟨hoption, hmissing⟩ := (statusMissing_iff hi hcount).mp hstop
      exact hstatus hoption hmissing
    have htotal : length + (i :: is).length * l.answerLength flags =
        length + l.answerLength flags + is.length * l.answerLength flags := by
      rw [List.length_cons, Nat.succ_mul]
      omega
    rw [appendBlocksAccesses, if_neg hgo, allSafe_append, htotal]
    by_cases hfits : length + l.answerLength flags ≤ 256
    · rw [ih (fun j hj => his j (List.mem_cons_of_mem _ hj)) hfits]
      exact and_iff_right (appendBlockAnswerAccesses_safe hi hcount hfits)
    · -- the answer for this block does not fit already
      refine iff_of_false (fun hsafe => hfits ?_) (by omega)
      have hanswer := hsafe.1
      unfold appendBlockAnswerAccesses answerLength at *
      split_ifs at hanswer ⊢ <;>
        simp only [allSafe_cons, safe_block, safe_append, allSafe_nil, and_true] at hanswer <;>
        omega

lemma append_of_fits {bytes : List (BitVec 8)} (h : l.txBuffer.length + bytes.length ≤ 256) :
    l.append bytes = some { l with txBuffer := l.txBuffer ++ bytes } := if_pos h

lemma cget_bind_append {array : SimpleArray} {index n : Nat} (hindex : index < array.count)
    (h : l.txBuffer.length + n ≤ 256) :
    ∃ bytes, bytes.length = n ∧
      (array.cget index n).bind l.append = some { l with txBuffer := l.txBuffer ++ bytes } := by
  refine ⟨(List.range n).map fun j => array.data (index + j), by simp, ?_⟩
  rw [SimpleArray.cget, if_pos hindex, Option.bind_some, append_of_fits (by simpa using h)]

lemma appendBlockAnswer_of_fits (hi : i < l.data.blockCount) (hcount : l.data.blockCount ≤ 256)
    (hsize : 0 < l.data.blockSize)
    (hstatus : flags.getLsbD 6 = true → l.data.blockSecurity.count ≠ 0)
    (hfits : l.txBuffer.length + l.answerLength flags ≤ 256) :
    ∃ bytes, bytes.length = l.answerLength flags ∧
      l.appendBlockAnswer flags i = some { l with txBuffer := l.txBuffer ++ bytes } := by
  have hmod : i % 256 = i := Nat.mod_eq_of_lt (Nat.lt_of_lt_of_le hi hcount)
  have hblock : i * l.data.blockSize < l.data.blockData.count := by
    rw [l.data.count_blockData]
    exact Nat.mul_lt_mul_of_pos_right hi hsize
  have hsecurity := l.data.count_blockSecurity
  rw [← Iso15693_3Data.blockCount] at hsecurity
  rw [appendBlockAnswer]
  unfold answerLength at hfits ⊢
  by_cases hoption : flags.getLsbD 6 = true
  · rw [if_pos hoption] at hfits
    have hcountSecurity : i < l.data.blockSecurity.count := by
      have := hstatus hoption
      omega
    obtain ⟨status, hstatusLength, hs⟩ :=
      cget_bind_append (l := l) (n := 1) hcountSecurity (by omega)
    obtain ⟨bytes, hbytes, hb⟩ := cget_bind_append
      (l := { l with txBuffer := l.txBuffer ++ status }) (n := l.data.blockSize) hblock (by
        rw [List.length_append]
        omega)
    refine ⟨status ++ bytes, by rw [List.length_append, if_pos hoption]; omega, ?_⟩
    rw [if_pos hoption, appendBlockSecurity, hmod, hs, Option.bind_some, appendBlock, hmod]
    refine hb.trans ?_
    rw [List.append_assoc]
  · rw [if_neg hoption] at hfits
    obtain ⟨bytes, hbytes, hb⟩ :=
      cget_bind_append (l := l) (n := l.data.blockSize) hblock (by omega)
    refine ⟨bytes, by rw [if_neg hoption]; omega, ?_⟩
    rw [if_neg hoption, Option.bind_some, appendBlock, hmod, hb]

lemma appendBlocks_of_fits {l : Iso15693_3Listener} (his : ∀ i ∈ is, i < l.data.blockCount)
    (hcount : l.data.blockCount ≤ 256) (hsize : 0 < l.data.blockSize)
    (hstatus : flags.getLsbD 6 = true → l.data.blockSecurity.count ≠ 0)
    (hfits : l.txBuffer.length + is.length * l.answerLength flags ≤ 256) :
    ∃ bytes, bytes.length = is.length * l.answerLength flags ∧
      appendBlocks flags is l = some { l with txBuffer := l.txBuffer ++ bytes } := by
  induction is generalizing l with
  | nil => exact ⟨[], by simp, by rw [List.append_nil]; rfl⟩
  | cons i is ih =>
    have htotal : (i :: is).length * l.answerLength flags =
        l.answerLength flags + is.length * l.answerLength flags := by
      rw [List.length_cons, Nat.succ_mul, Nat.add_comm]
    rw [htotal] at hfits ⊢
    obtain ⟨bytes, hbytes, hfirst⟩ := appendBlockAnswer_of_fits (his i List.mem_cons_self) hcount
      hsize hstatus (by omega)
    obtain ⟨rest, hrest, hrun⟩ := ih (l := { l with txBuffer := l.txBuffer ++ bytes })
      (fun j hj => his j (List.mem_cons_of_mem _ hj)) hcount hsize hstatus (by
        rw [List.length_append, hbytes]
        exact (Nat.add_assoc ..).le.trans hfits)
    refine ⟨bytes ++ rest, ?_, ?_⟩
    · rw [List.length_append, hbytes, hrest]
      rfl
    · rw [appendBlocks, hfirst, Option.bind_some, hrun, List.append_assoc]

/-! ### The multiple write -/

lemma anyBlockLockedAccesses_safe {card : Iso15693_3Data} (his : ∀ i ∈ is, i < blockCount)
    (hcount : blockCount ≤ 256) : AllSafe size blockCount (anyBlockLockedAccesses card is) := by
  induction is with
  | nil => exact allSafe_nil
  | cons i is ih =>
    have hi := his i List.mem_cons_self
    rw [anyBlockLockedAccesses, allSafe_cons, safe_block,
      Nat.mod_eq_of_lt (Nat.lt_of_lt_of_le hi hcount)]
    refine ⟨hi, ?_⟩
    split_ifs
    · exact ih fun j hj => his j (List.mem_cons_of_mem _ hj)
    · exact allSafe_nil

lemma setBlocksAccesses_safe_iff {start count blockSize : Nat} (hcount : 0 < count)
    (hsize : 0 < blockSize) (hend : start + count ≤ blockCount) (hblocks : blockCount ≤ 256) :
    AllSafe size blockCount (setBlocksAccesses blockSize (List.range' start count)) ↔
      2 + blockSize * (start + count) ≤ size := by
  constructor
  · intro h
    have hlast : start + count - 1 ∈ List.range' start count := List.mem_range'_1.mpr (by omega)
    have hmem : request (2 + blockSize * (start + count - 1) + (blockSize - 1)) ∈
        setBlocksAccesses blockSize (List.range' start count) :=
      List.mem_flatMap.mpr ⟨_, hlast, List.mem_append_left _
        (List.mem_map.mpr ⟨blockSize - 1, List.mem_range.mpr (by omega), rfl⟩)⟩
    have hlt := safe_request.mp (h _ hmem)
    have hmul : blockSize * (start + count) = blockSize * (start + count - 1) + blockSize := by
      rw [← Nat.mul_succ]
      congr 1
      omega
    omega
  · intro h access haccess
    obtain ⟨i, hi, haccess⟩ := List.mem_flatMap.mp haccess
    have hi := (List.mem_range'_1.mp hi).2
    rcases List.mem_append.mp haccess with hrequest | hblock
    · obtain ⟨j, hj, rfl⟩ := List.mem_map.mp hrequest
      have hj := List.mem_range.mp hj
      have hmul : blockSize * (i + 1) ≤ blockSize * (start + count) := Nat.mul_le_mul_left _ hi
      rw [Nat.mul_succ] at hmul
      rw [safe_request]
      omega
    · rw [List.mem_singleton.mp hblock, safe_block, Nat.mod_eq_of_lt (by omega)]
      omega

lemma writeMultiBlocksAccesses_safe_iff (hcount : l.data.blockCount ≤ 256)
    (hsize : 0 < l.data.blockSize) (r : Iso15693_3Request) :
    AllSafe r.dataSize l.data.blockCount (l.writeMultiBlocksAccesses r.data r.dataSize) ↔
      (2 < r.dataSize → r.count ≤ asUInt32 (l.data.blockCount - r.start) →
        (r.dataSize - 2) / r.count = l.data.blockSize → r.start ≤ l.data.blockCount) ∧
      (l.AcceptsWriteMulti r → 2 + l.data.blockSize * (r.start + r.count) ≤ r.dataSize) := by
  have hstart : r.start < 256 := (r.data 0).isLt
  have hpos : 0 < r.count := Nat.succ_pos _
  have haccesses : l.writeMultiBlocksAccesses r.data r.dataSize =
      if r.dataSize ≤ 2 then []
      else
        request 0 :: request 1 ::
          if asUInt32 (l.data.blockCount - r.start) < r.count then []
          else if (r.dataSize - 2) / r.count ≠ l.data.blockSize then []
          else
            anyBlockLockedAccesses l.data (List.range' r.start r.count) ++
              if anyBlockLocked l.data (List.range' r.start r.count) = some false then
                setBlocksAccesses ((r.dataSize - 2) / r.count) (List.range' r.start r.count)
              else [] := rfl
  rw [haccesses]
  by_cases htwo : r.dataSize ≤ 2
  · rw [if_pos htwo]
    exact iff_of_true allSafe_nil ⟨fun h => absurd h (Nat.not_lt.mpr htwo),
      fun h => absurd h.size (Nat.not_lt.mpr htwo)⟩
  have hhead (accesses : List Iso15693_3Access) : AllSafe r.dataSize l.data.blockCount
      (request 0 :: request 1 :: accesses) ↔ AllSafe r.dataSize l.data.blockCount accesses := by
    rw [allSafe_cons, allSafe_cons, safe_request, safe_request, and_iff_right (by omega),
      and_iff_right (by omega)]
  rw [if_neg htwo, hhead, imp_iff_right (Nat.lt_of_not_le htwo)]
  by_cases havailable : asUInt32 (l.data.blockCount - r.start) < r.count
  · rw [if_pos havailable]
    exact iff_of_true allSafe_nil ⟨fun h => absurd h (Nat.not_le.mpr havailable),
      fun h => absurd h.available (Nat.not_le.mpr havailable)⟩
  rw [if_neg havailable, imp_iff_right (Nat.le_of_not_lt havailable)]
  by_cases hblockSize : (r.dataSize - 2) / r.count = l.data.blockSize
  swap
  · rw [if_pos hblockSize]
    exact iff_of_true allSafe_nil ⟨fun h => absurd h hblockSize,
      fun h => absurd h.blockSize hblockSize⟩
  rw [if_neg (not_not.mpr hblockSize), imp_iff_right hblockSize, allSafe_append]
  by_cases hbehind : r.start ≤ l.data.blockCount
  · have hend : r.start + r.count ≤ l.data.blockCount := by
      have hle := Nat.le_of_not_lt havailable
      unfold asUInt32 at hle
      omega
    have hin : ∀ i ∈ List.range' r.start r.count, i < l.data.blockCount := fun i hi =>
      Nat.lt_of_lt_of_le (List.mem_range'_1.mp hi).2 hend
    rw [and_iff_right (anyBlockLockedAccesses_safe hin hcount), and_iff_right hbehind]
    by_cases hlocked : anyBlockLocked l.data (List.range' r.start r.count) = some false
    · have haccepts : l.AcceptsWriteMulti r :=
        ⟨Nat.lt_of_not_le htwo, Nat.le_of_not_lt havailable, hblockSize, hlocked⟩
      rw [if_pos hlocked, imp_iff_right haccepts, hblockSize]
      exact setBlocksAccesses_safe_iff hpos hsize hend hcount
    · rw [if_neg hlocked]
      exact iff_of_true allSafe_nil fun h => absurd h.unlocked hlocked
  · -- the first block is looked up behind the card
    refine iff_of_false (fun h => ?_) fun h => hbehind h.1
    have hfirst : List.range' r.start r.count =
        r.start :: List.range' (r.start + 1) (r.count - 1) := by
      rw [← Nat.sub_add_cancel hpos, List.range'_succ]
      rfl
    have hblock := h.1
    rw [hfirst, anyBlockLockedAccesses, allSafe_cons, safe_block, Nat.mod_eq_of_lt hstart] at hblock
    omega

/-! ### The security status of several blocks -/

lemma appendBlocksLockedAccesses_safe_iff (size : Nat) (his : ∀ i ∈ is, i < blockCount)
    (hcount : blockCount ≤ 256) (hlength : length ≤ 256) :
    AllSafe size blockCount (appendBlocksLockedAccesses is length) ↔ length + is.length ≤ 256 := by
  induction is generalizing length with
  | nil => simpa [appendBlocksLockedAccesses] using hlength
  | cons i is ih =>
    have hi := his i List.mem_cons_self
    rw [appendBlocksLockedAccesses, allSafe_cons, allSafe_cons, safe_block, safe_append,
      Nat.mod_eq_of_lt (Nat.lt_of_lt_of_le hi hcount), and_iff_right hi, List.length_cons]
    by_cases hfits : length + 1 ≤ 256
    · rw [ih (fun j hj => his j (List.mem_cons_of_mem _ hj)) hfits, and_iff_right hfits]
      omega
    · exact iff_of_false (fun h => hfits h.1) (by omega)

lemma appendBlocksLocked_of_fits {l : Iso15693_3Listener} (his : ∀ i ∈ is, i < l.data.blockCount)
    (hcount : l.data.blockCount ≤ 256) (hfits : l.txBuffer.length + is.length ≤ 256) :
    ∃ bytes, bytes.length = is.length ∧
      appendBlocksLocked is l = some { l with txBuffer := l.txBuffer ++ bytes } := by
  induction is generalizing l with
  | nil => exact ⟨[], rfl, by rw [List.append_nil]; rfl⟩
  | cons i is ih =>
    have hi := his i List.mem_cons_self
    obtain ⟨locked, hlocked⟩ : ∃ locked, l.data.isBlockLocked i = some locked := by
      rw [Iso15693_3Data.isBlockLocked, Nat.mod_eq_of_lt (Nat.lt_of_lt_of_le hi hcount), if_pos hi]
      split_ifs <;> exact ⟨_, rfl⟩
    rw [List.length_cons] at hfits
    obtain ⟨rest, hrest, hrun⟩ := ih (l := { l with
        txBuffer := l.txBuffer ++ [if locked then 1 else 0] })
      (fun j hj => his j (List.mem_cons_of_mem _ hj)) hcount (by
        rw [List.length_append, List.length_singleton]
        omega)
    refine ⟨(if locked then 1 else 0) :: rest,
      by rw [List.length_cons, List.length_cons, hrest], ?_⟩
    rw [appendBlocksLocked, hlocked, Option.bind_eq_bind, Option.bind_some,
      append_of_fits (by rw [List.length_singleton]; omega)]
    refine hrun.trans ?_
    rw [List.append_assoc, List.singleton_append]

/-! ### Answers -/

lemma answerAccesses_safe_iff (hlength : error = .none → l.txBuffer.length ≤ 256) :
    AllSafe size blockCount (l.answerAccesses error) ↔
      (error = .none → l.txBuffer.length + l.crcLength ≤ 256) := by
  unfold answerAccesses crcLength sendFrameAccesses
  by_cases hnone : error = .none
  · subst hnone
    rw [if_neg (by simp), if_pos rfl, List.nil_append, imp_iff_right rfl]
    have hfits := hlength rfl
    rw [if_pos rfl]
    by_cases hwait : l.sessionState.waitForEof = true
    · rw [if_pos hwait, if_pos hwait]
      exact iff_of_true allSafe_nil hfits
    · rw [if_neg hwait, if_neg hwait]
      exact allSafe_cons.trans (and_iff_left allSafe_nil)
  · rw [if_neg hnone, if_neg hnone]
    split_ifs <;> simp [hnone]

lemma answerAccesses_none_safe_iff {n : Nat} (hn : l.txBuffer.length = n) (hfits : n ≤ 256) :
    AllSafe size blockCount (l.answerAccesses .none) ↔ n + l.crcLength ≤ 256 := by
  rw [answerAccesses_safe_iff fun _ => hn.le.trans hfits, imp_iff_right rfl, hn]

lemma answerAccesses_internal_safe : AllSafe size blockCount (l.answerAccesses .internal) := by
  refine (answerAccesses_safe_iff ?_).mpr ?_ <;> exact fun h => nomatch h

lemma append_length {bytes : List (BitVec 8)} (h : l.append bytes = some l') :
    l'.txBuffer.length = l.txBuffer.length + bytes.length := by
  rw [(appends_append h).txBuffer, List.length_append]

lemma appendUid_length (h : l.appendUid = some l') :
    l'.txBuffer.length = l.txBuffer.length + 8 := by
  rw [append_length h]
  simp

lemma appendField_length_le {flag : Bool} {bytes : List (BitVec 8)}
    (h : l.appendField flag bytes = some l') :
    l'.txBuffer.length ≤ l.txBuffer.length + bytes.length := by
  unfold appendField at h
  split_ifs at h
  · rw [append_length h]
  · cases h
    exact Nat.le_add_right ..

lemma readBlock_length (hsize : l.data.blockSize ≤ 32)
    (h : l.appendBlockAnswer flags i = some l') :
    l'.txBuffer.length ≤ l.txBuffer.length + 33 := by
  rw [(appends_appendBlockAnswer h).txBuffer, List.length_append]
  have hblock : (l.data.block (i % 256)).length = l.data.blockSize := by
    simp [Iso15693_3Data.block]
  simp only [Iso15693_3Data.readAnswer, List.flatMap_singleton, List.length_append, hblock]
  split_ifs <;> simp <;> omega

lemma handler_length (hsize : l.data.blockSize ≤ 32) (hlength : l.txBuffer.length = 1)
    (h23 : command ≠ 0x23) (h2C : command ≠ 0x2C)
    (h : l.handler data dataSize flags command = some (some (error, l'))) :
    l'.txBuffer.length ≤ 34 := by
  by_cases hwrite : command ∈ iso15693_3WriteCommands
  · rw [writeHandler_session hwrite h]
    exact hlength.le.trans (by omega)
  -- a handler that does not append leaves the one byte
  have hsame (h : l' = l) : l'.txBuffer.length ≤ 34 := by
    rw [h, hlength]
    omega
  unfold handler at h
  split at h
  · have h := Option.some.inj h
    unfold inventoryHandler at h
    dsimp only at h
    split_ifs at h
    all_goals try (cases h; exact hsame rfl)
    all_goals
      obtain ⟨l₁, h₁, h⟩ := Option.bind_eq_some_iff.mp h
      obtain ⟨l₂, h₂, h⟩ := Option.bind_eq_some_iff.mp h
      cases h
      rw [appendUid_length h₂, append_length h₁, hlength, List.length_singleton]
      decide
  · cases h
    exact hlength.le.trans (by omega)
  · have h := Option.some.inj h
    unfold readBlockHandler at h
    dsimp only at h
    split_ifs at h
    · cases h; exact hsame rfl
    · cases h; exact hsame rfl
    · obtain ⟨l₁, h₁, h⟩ := Option.bind_eq_some_iff.mp h
      cases h
      have hle := readBlock_length hsize h₁
      omega
  · exact absurd (by decide) hwrite
  · exact absurd (by decide) hwrite
  · exact absurd rfl h23
  · exact absurd (by decide) hwrite
  · unfold selectHandler at h
    split_ifs at h
    · cases h
      exact hlength.le.trans (by omega)
    · cases h
      exact hsame rfl
  · cases h
    exact hlength.le.trans (by omega)
  · exact absurd (by decide) hwrite
  · exact absurd (by decide) hwrite
  · exact absurd (by decide) hwrite
  · exact absurd (by decide) hwrite
  · have h := Option.some.inj h
    obtain ⟨l₁, h₁, h⟩ := Option.bind_eq_some_iff.mp h
    obtain ⟨l₂, h₂, h⟩ := Option.bind_eq_some_iff.mp h
    obtain ⟨l₃, h₃, h⟩ := Option.bind_eq_some_iff.mp h
    obtain ⟨l₄, h₄, h⟩ := Option.bind_eq_some_iff.mp h
    obtain ⟨l₅, h₅, h⟩ := Option.bind_eq_some_iff.mp h
    obtain ⟨l₆, h₆, h⟩ := Option.bind_eq_some_iff.mp h
    cases h
    have hlength₁ := append_length h₁
    have hlength₂ := appendUid_length h₂
    have hlength₃ := appendField_length_le h₃
    have hlength₄ := appendField_length_le h₄
    have hlength₅ := appendField_length_le h₅
    have hlength₆ := appendField_length_le h₆
    simp only [List.length_cons, List.length_nil] at *
    omega
  · exact absurd rfl h2C
  · cases h

/-! ### Requests -/

variable {r : Iso15693_3Request}

lemma crcLength_le (l : Iso15693_3Listener) : l.crcLength ≤ 2 := by
  unfold crcLength
  split_ifs <;> omega

lemma handleStandardRequestAccesses_of_some {result : Option (Iso15693_3Error × Iso15693_3Listener)}
    (h : { l with txBuffer := [0] }.handler data dataSize flags command = some result) :
    AllSafe size blockCount (l.handleStandardRequestAccesses data dataSize flags command) ↔
      AllSafe size blockCount (l.handlerAccesses data dataSize flags command) ∧
        ∀ error l', result = some (error, l') →
          AllSafe size blockCount (l'.answerAccesses error) := by
  rw [handleStandardRequestAccesses, h, allSafe_cons, allSafe_append, and_iff_right (by simp)]
  cases result with
  | none =>
    refine and_congr_right fun _ => ?_
    refine iff_of_true allSafe_nil fun _ _ hresult => ?_
    cases hresult
  | some result =>
    refine and_congr_right fun _ => ⟨fun hsafe error l' hresult => ?_, fun hsafe => hsafe _ _ rfl⟩
    cases hresult
    exact hsafe

lemma handleStandardRequestAccesses_safe_iff (hsize : l.data.blockSize ≤ 32)
    (h23 : command ≠ 0x23) (h2C : command ≠ 0x2C) :
    AllSafe size blockCount (l.handleStandardRequestAccesses data dataSize flags command) ↔
      (({ l with txBuffer := [0] }.handler data dataSize flags command).isSome →
        AllSafe size blockCount (l.handlerAccesses data dataSize flags command)) := by
  cases hhandler : { l with txBuffer := [0] }.handler data dataSize flags command with
  | none =>
    rw [handleStandardRequestAccesses, hhandler]
    exact iff_of_true allSafe_nil fun h => absurd h Bool.false_ne_true
  | some result =>
    rw [handleStandardRequestAccesses_of_some hhandler, Option.isSome_some, imp_iff_right rfl]
    refine and_iff_left fun error l' hresult => ?_
    have hlength := handler_length (l := { l with txBuffer := [0] }) hsize rfl h23 h2C
      (hhandler.trans (congrArg some hresult))
    have hcrc := crcLength_le l'
    exact (answerAccesses_safe_iff fun _ => by omega).mpr fun _ => by omega

lemma answerAccesses_format : AllSafe size blockCount (l.answerAccesses .format) := by
  rw [answerAccesses, if_pos (.inl rfl)]
  exact allSafe_nil

lemma appendBlocks_of_missing {l : Iso15693_3Listener} (hoption : flags.getLsbD 6 = true)
    (hmissing : l.data.blockSecurity.count = 0) (h : appendBlocks flags is l = some l') :
    l' = l := by
  cases is with
  | nil => exact (Option.some.inj h).symm
  | cons i is =>
    have hnone : l.appendBlockAnswer flags i = none := by
      rw [appendBlockAnswer, if_pos hoption, appendBlockSecurity, SimpleArray.cget, hmissing,
        if_neg (Nat.not_lt_zero _)]
      rfl
    rw [appendBlocks, hnone] at h
    cases h

lemma appendBlocks_safe_iff (size : Nat) (flags : BitVec 8) (his : ∀ i ∈ is, i < l.data.blockCount)
    (hcount : l.data.blockCount ≤ 256) (hsize : 0 < l.data.blockSize) :
    (AllSafe size l.data.blockCount (l.appendBlocksAccesses flags is 1) ∧
      ∀ l', appendBlocks flags is { l with txBuffer := [0] } = some l' →
        AllSafe size l.data.blockCount (l'.answerAccesses .none)) ↔
      ((flags.getLsbD 6 = true → l.data.blockSecurity.count ≠ 0) →
        1 + is.length * l.answerLength flags + l.crcLength ≤ 256) := by
  by_cases hstatus : flags.getLsbD 6 = true → l.data.blockSecurity.count ≠ 0
  · rw [imp_iff_right hstatus, appendBlocksAccesses_safe_iff his hcount hstatus (by omega)]
    by_cases hfits : 1 + is.length * l.answerLength flags ≤ 256
    · obtain ⟨bytes, hbytes, hrun⟩ :=
        appendBlocks_of_fits (l := { l with txBuffer := [0] }) his hcount hsize hstatus hfits
      rw [and_iff_right hfits]
      have hlength : ([0] ++ bytes : List (BitVec 8)).length =
          1 + is.length * l.answerLength flags := by
        rw [List.length_append, hbytes]
        rfl
      have hanswer : AllSafe size l.data.blockCount
          ({ l with txBuffer := [0] ++ bytes }.answerAccesses .none) ↔
            1 + is.length * l.answerLength flags + l.crcLength ≤ 256 :=
        answerAccesses_none_safe_iff hlength hfits
      refine ⟨fun h => hanswer.mp (h _ hrun), fun h l' hl' => ?_⟩
      cases hrun.symm.trans hl'
      exact hanswer.mpr h
    · exact iff_of_false (fun h => hfits h.1) (by omega)
  · refine iff_of_true ?_ fun h => absurd h hstatus
    rw [Classical.not_imp, not_not] at hstatus
    refine ⟨appendBlocksAccesses_of_missing his hcount hstatus.1 hstatus.2, fun l' hl' => ?_⟩
    rw [appendBlocks_of_missing (l := { l with txBuffer := [0] }) hstatus.1 hstatus.2 hl']
    have hcrc := crcLength_le { l with txBuffer := [0] }
    exact (answerAccesses_none_safe_iff List.length_singleton (by omega)).mpr (by omega)

lemma readMultiBlocks_safe_iff (hpos : 0 < l.data.blockCount) (hcount : l.data.blockCount ≤ 256)
    (hsize : 0 < l.data.blockSize) (hcommand : r.command = 0x23) :
    AllSafe r.dataSize l.data.blockCount
        (l.handleStandardRequestAccesses r.data r.dataSize r.flags r.command) ↔
      (r.dataSize = 2 → (r.flags.getLsbD 6 = true → l.data.blockSecurity.count ≠ 0) →
        1 + (l.readMultiBlocksEnd r.data + 1 - r.start) * l.answerLength r.flags + l.crcLength ≤
          256) := by
  have hhandler : { l with txBuffer := [0] }.handler r.data r.dataSize r.flags r.command =
      some ({ l with txBuffer := [0] }.readMultiBlocksHandler r.data r.dataSize r.flags) := by
    rw [hcommand]
    rfl
  have haccesses : l.handlerAccesses r.data r.dataSize r.flags r.command =
      l.readMultiBlocksAccesses r.data r.dataSize r.flags := by
    rw [hcommand]
    rfl
  rw [handleStandardRequestAccesses_of_some hhandler, haccesses, readMultiBlocksAccesses,
    readMultiBlocksHandler]
  by_cases htwo : r.dataSize = 2
  swap
  · rw [if_pos htwo, if_pos htwo]
    refine iff_of_true ⟨allSafe_nil, fun error l' hresult => ?_⟩ fun h => absurd h htwo
    cases hresult
    exact answerAccesses_format
  have hend : l.readMultiBlocksEnd r.data ≤ l.data.blockCount - 1 := by
    refine (Nat.min_le_right ..).trans ?_
    unfold asUInt32
    omega
  have hin : ∀ i ∈ List.range' r.start (l.readMultiBlocksEnd r.data + 1 - r.start),
      i < l.data.blockCount := fun i hi => by
    have := List.mem_range'_1.mp hi
    omega
  have hsafe := appendBlocks_safe_iff r.dataSize r.flags hin hcount hsize
  rw [List.length_range'] at hsafe
  rw [if_neg (not_not.mpr htwo), if_neg (not_not.mpr htwo), imp_iff_right htwo, ← hsafe,
    allSafe_cons, allSafe_cons, safe_request, safe_request, and_assoc, and_assoc,
    and_iff_right (by omega), and_iff_right (by omega)]
  refine and_congr_right fun _ => ⟨fun h l' hl' => h .none l' ?_, fun h error l' hresult => ?_⟩
  · exact Option.bind_eq_some_iff.mpr ⟨l', hl', rfl⟩
  · obtain ⟨l₁, hl₁, hresult⟩ := Option.bind_eq_some_iff.mp hresult
    cases hresult
    exact h l' hl₁

lemma getMultiBlocksSecurity_safe_iff (hcount : l.data.blockCount ≤ 256)
    (hcommand : r.command = 0x2C) :
    AllSafe r.dataSize l.data.blockCount
        (l.handleStandardRequestAccesses r.data r.dataSize r.flags r.command) ↔
      (2 ≤ r.dataSize → r.start + r.count ≤ l.data.blockCount →
        1 + r.count + l.crcLength ≤ 256) := by
  have hhandler : { l with txBuffer := [0] }.handler r.data r.dataSize r.flags r.command =
      some ({ l with txBuffer := [0] }.getMultiBlocksSecurityHandler r.data r.dataSize) := by
    rw [hcommand]
    rfl
  have haccesses : l.handlerAccesses r.data r.dataSize r.flags r.command =
      l.getMultiBlocksSecurityAccesses r.data r.dataSize := by
    rw [hcommand]
    rfl
  rw [handleStandardRequestAccesses_of_some hhandler, haccesses, getMultiBlocksSecurityAccesses,
    getMultiBlocksSecurityHandler]
  by_cases htwo : r.dataSize < 2
  · rw [if_pos htwo, if_pos htwo]
    refine iff_of_true ⟨allSafe_nil, fun error l' hresult => ?_⟩
      fun h => absurd h (Nat.not_le.mpr htwo)
    cases hresult
    exact answerAccesses_format
  rw [if_neg htwo, if_neg htwo, imp_iff_right (Nat.le_of_not_lt htwo), allSafe_cons, allSafe_cons,
    safe_request, safe_request, and_assoc, and_assoc, and_iff_right (by omega),
    and_iff_right (by omega)]
  have hend : l.data.blockCount ≤ (r.data 0).toNat + (r.data 1).toNat ↔
      ¬ r.start + r.count ≤ l.data.blockCount := by
    rw [Iso15693_3Request.start, Iso15693_3Request.count]
    omega
  by_cases hinside : r.start + r.count ≤ l.data.blockCount
  · have hbehind : ¬ l.data.blockCount ≤ (r.data 0).toNat + (r.data 1).toNat :=
      fun h => hend.mp h hinside
    have hin : ∀ i ∈ List.range' r.start r.count, i < l.data.blockCount := fun i hi =>
      Nat.lt_of_lt_of_le (List.mem_range'_1.mp hi).2 hinside
    have hsafe := appendBlocksLockedAccesses_safe_iff r.dataSize hin hcount (by omega : 1 ≤ 256)
    rw [List.length_range'] at hsafe
    have hsecurity : ¬ { l with txBuffer := [0] }.data.blockCount ≤
        (r.data 0).toNat + (r.data 1).toNat := hbehind
    rw [if_neg hbehind, if_neg hsecurity, imp_iff_right hinside]
    refine (and_congr_left' hsafe).trans ?_
    by_cases hfits : 1 + r.count ≤ 256
    · obtain ⟨bytes, hbytes, hrun⟩ := appendBlocksLocked_of_fits
        (l := { l with txBuffer := [0] }) hin hcount (by rw [List.length_range']; exact hfits)
      rw [List.length_range'] at hbytes
      have hlength : ([0] ++ bytes : List (BitVec 8)).length = 1 + r.count := by
        rw [List.length_append, hbytes]
        rfl
      have hanswer : AllSafe r.dataSize l.data.blockCount
          ({ l with txBuffer := [0] ++ bytes }.answerAccesses .none) ↔
            1 + r.count + l.crcLength ≤ 256 := answerAccesses_none_safe_iff hlength hfits
      rw [and_iff_right hfits]
      refine ⟨fun h => hanswer.mp (h _ _ (Option.bind_eq_some_iff.mpr ⟨_, hrun, rfl⟩)),
        fun h error l' hresult => ?_⟩
      obtain ⟨l₁, hl₁, hresult⟩ := Option.bind_eq_some_iff.mp hresult
      cases hresult
      cases hrun.symm.trans hl₁
      exact hanswer.mpr h
    · exact iff_of_false (fun h => hfits h.1) (by omega)
  · have hbehind := hend.mpr hinside
    have hsecurity : { l with txBuffer := [0] }.data.blockCount ≤
        (r.data 0).toNat + (r.data 1).toNat := hbehind
    rw [if_pos hbehind, if_pos hsecurity]
    refine iff_of_true ⟨allSafe_nil, fun error l' hresult => ?_⟩ fun h => absurd h hinside
    cases hresult
    exact answerAccesses_internal_safe

lemma handleStandardRequest_safe_iff (hpos : 0 < l.data.blockCount)
    (hcount : l.data.blockCount ≤ 256) (hsize : 0 < l.data.blockSize)
    (hsize' : l.data.blockSize ≤ 32) :
    AllSafe r.dataSize l.data.blockCount
        (l.handleStandardRequestAccesses r.data r.dataSize r.flags r.command) ↔
      l.RequestInside r := by
  by_cases h23 : r.command = 0x23
  · rw [readMultiBlocks_safe_iff hpos hcount hsize h23]
    have h24 : r.command ≠ 0x24 := by rw [h23]; decide
    have h2C : r.command ≠ 0x2C := by rw [h23]; decide
    exact ⟨fun h => ⟨fun _ => h, fun h => absurd h h24, fun h => absurd h h24,
      fun h => absurd h h2C⟩, fun h => h.readMultiBlocks h23⟩
  by_cases h2C : r.command = 0x2C
  · rw [getMultiBlocksSecurity_safe_iff hcount h2C]
    have h24 : r.command ≠ 0x24 := by rw [h2C]; decide
    exact ⟨fun h => ⟨fun h => absurd h h23, fun h => absurd h h24, fun h => absurd h h24,
      fun _ => h⟩, fun h => h.getMultiBlocksSecurity h2C⟩
  rw [handleStandardRequestAccesses_safe_iff hsize' h23 h2C]
  by_cases h24 : r.command = 0x24
  · have hhandler : ({ l with txBuffer := [0] }.handler r.data r.dataSize r.flags
        r.command).isSome := by
      rw [h24]
      rfl
    have haccesses : l.handlerAccesses r.data r.dataSize r.flags r.command =
        l.writeMultiBlocksAccesses r.data r.dataSize := by
      rw [h24]
      rfl
    rw [imp_iff_right hhandler, haccesses, writeMultiBlocksAccesses_safe_iff hcount hsize]
    exact ⟨fun h => ⟨fun h => absurd h h23, fun _ => h.1, fun _ => h.2, fun h => absurd h h2C⟩,
      fun h => ⟨h.writeMultiBlocks h24, h.writeMultiChunks h24⟩⟩
  refine iff_of_true (fun _ => ?_) ⟨fun h => absurd h h23, fun h => absurd h h24,
    fun h => absurd h h24, fun h => absurd h h2C⟩
  unfold handlerAccesses
  split
  · exact inventoryAccesses_safe
  · exact readBlockAccesses_safe hcount hsize'
  · exact writeBlockAccesses_safe
  · exact lockBlockAccesses_safe
  · exact absurd ‹_› h23
  · exact absurd ‹_› h24
  · exact writeByteAccesses_safe
  · exact writeByteAccesses_safe
  · exact getSystemInfoAccesses_safe
  · exact absurd ‹_› h2C
  · exact allSafe_nil

/-! ### Frames -/

/-- The conditions are on the card and on whether its answer is put off. -/
lemma RequestInside.of_eq {l₁ : Iso15693_3Listener} (hdata : l₁.data = l.data)
    (hwait : l₁.sessionState.waitForEof = l.sessionState.waitForEof) :
    l₁.RequestInside r ↔ l.RequestInside r := by
  have hcrc : l₁.crcLength = l.crcLength := by rw [crcLength, crcLength, hwait]
  have haccepts : l₁.AcceptsWriteMulti r ↔ l.AcceptsWriteMulti r :=
    ⟨fun h => h.of_data hdata, fun h => h.of_data hdata.symm⟩
  have hend : l₁.readMultiBlocksEnd r.data = l.readMultiBlocksEnd r.data := by
    rw [readMultiBlocksEnd, readMultiBlocksEnd, hdata]
  have hlength : l₁.answerLength r.flags = l.answerLength r.flags := by
    rw [answerLength, answerLength, hdata]
  constructor <;> intro h
  · obtain ⟨h23, h24, hchunks, h2C⟩ := h
    rw [hdata, hend, hlength, hcrc] at h23
    rw [hdata] at h24 hchunks
    rw [hdata, hcrc] at h2C
    exact ⟨h23, h24, fun hc ha => hchunks hc (haccepts.mpr ha), h2C⟩
  · obtain ⟨h23, h24, hchunks, h2C⟩ := h
    rw [← hdata, ← hend, ← hlength, ← hcrc] at h23
    rw [← hdata] at h24 hchunks
    rw [← hdata, ← hcrc] at h2C
    exact ⟨h23, h24, fun hc ha => hchunks hc (haccepts.mp ha), h2C⟩

/-- What the listener does with a frame is within bounds if and only if the standard request that it
takes up, if there is one, keeps the conditions. -/
lemma processRequest_safe_iff (hpos : 0 < l.data.blockCount) (hcount : l.data.blockCount ≤ 256)
    (hsize : 0 < l.data.blockSize) (hsize' : l.data.blockSize ≤ 32) (rxBuffer : Memory)
    (size : Nat) :
    AllSafe size l.data.blockCount (l.processRequestAccesses rxBuffer size) ↔
      ∀ r ∈ l.requestTaken (.frame rxBuffer size), l.RequestInside r := by
  obtain ⟨-, hwait, -⟩ := selectMode_state l (rxBuffer 0)
  have hdata := selectMode_data l (rxBuffer 0)
  -- the handler works on a listener with the card of `l`
  have hrequest (r : Iso15693_3Request) : AllSafe r.dataSize l.data.blockCount
      ((l.selectMode (rxBuffer 0)).2.handleStandardRequestAccesses r.data r.dataSize r.flags
        r.command) ↔ l.RequestInside r := by
    rw [← RequestInside.of_eq hdata hwait, ← hdata]
    rw [← hdata] at hpos hcount hsize hsize'
    exact handleStandardRequest_safe_iff hpos hcount hsize hsize'
  rw [processRequestAccesses]
  rcases Nat.lt_or_ge size 2 with htwo | htwo
  · rw [if_pos htwo]
    have hnone : l.requestTaken (.frame rxBuffer size) = none :=
      if_neg fun h => Nat.not_le.mpr htwo h.1
    rw [hnone]
    exact iff_of_true allSafe_nil fun r hr => absurd hr (Option.not_mem_none r)
  rw [if_neg (Nat.not_lt.mpr htwo), allSafe_cons, allSafe_cons, safe_request, safe_request,
    and_iff_right (by omega), and_iff_right (by omega)]
  by_cases hmode : (l.selectMode (rxBuffer 0)).1 = .none
  swap
  · have hnone : l.requestTaken (.frame rxBuffer size) = none := if_neg fun h => hmode h.2.1
    rw [hnone, if_pos hmode]
    exact iff_of_true allSafe_nil fun r hr => absurd hr (Option.not_mem_none r)
  rw [if_neg (not_not.mpr hmode)]
  have haddressed := selectMode_addressed hmode
  by_cases hcustom : 0xA0 ≤ (rxBuffer 1).toNat
  · have hnone : l.requestTaken (.frame rxBuffer size) = none :=
      if_neg fun h => Nat.not_le.mpr h.2.2.1 hcustom
    rw [hnone, if_pos hcustom, allSafe_shift htwo, handleCustomRequestAccesses]
    refine iff_of_true ?_ fun r hr => absurd hr (Option.not_mem_none r)
    split_ifs with hone
    · exact allSafe_nil
    · rw [allSafe_cons, safe_request]
      exact ⟨by omega, allSafe_nil⟩
  rw [if_neg hcustom]
  by_cases hmodeAddressed : (l.selectMode (rxBuffer 0)).2.sessionState.addressed = true
  · have hflags := haddressed.mp hmodeAddressed
    rw [if_pos hmodeAddressed]
    rcases Nat.lt_or_ge size 10 with hten | hten
    · have hnone : l.requestTaken (.frame rxBuffer size) = none :=
        if_neg fun h => Nat.not_le.mpr hten (h.2.2.2 hflags.1 hflags.2).1
      rw [hnone, if_pos hten]
      exact iff_of_true allSafe_nil fun r hr => absurd hr (Option.not_mem_none r)
    have huidAccesses : AllSafe size l.data.blockCount (isEqualUidAccesses.map (shift 2)) := by
      rw [allSafe_shift htwo]
      intro access haccess
      obtain ⟨i, hi, rfl⟩ := List.mem_map.mp haccess
      have hi := List.mem_range.mp hi
      rw [safe_request]
      omega
    rw [if_neg (Nat.not_lt.mpr hten), allSafe_append, and_iff_right huidAccesses, hdata]
    by_cases huid : l.data.isEqualUid (fun i => rxBuffer (2 + i)) = true
    · have htaken : l.requestTaken (.frame rxBuffer size) = some (.ofFrame rxBuffer size) :=
        if_pos ⟨htwo, hmode, Nat.lt_of_not_le hcustom, fun _ _ => ⟨hten, huid⟩⟩
      rw [htaken, if_neg (by rw [huid]; decide), allSafe_shift hten]
      have hr := hrequest (.ofFrame rxBuffer size)
      rw [Iso15693_3Request.ofFrame, if_pos hflags] at hr ⊢
      rw [hr]
      exact ⟨fun h r hr => Option.some.inj hr ▸ h, fun h => h _ rfl⟩
    · have hnone : l.requestTaken (.frame rxBuffer size) = none :=
        if_neg fun h => huid (h.2.2.2 hflags.1 hflags.2).2
      rw [hnone, if_pos (Bool.not_eq_true _ ▸ huid), allSafe_cons, safe_request]
      exact iff_of_true ⟨by omega, allSafe_nil⟩ fun r hr => absurd hr (Option.not_mem_none r)
  · have hflags := mt haddressed.mpr hmodeAddressed
    have htaken : l.requestTaken (.frame rxBuffer size) = some (.ofFrame rxBuffer size) :=
      if_pos ⟨htwo, hmode, Nat.lt_of_not_le hcustom, fun h2 h5 => absurd ⟨h2, h5⟩ hflags⟩
    rw [htaken, if_neg hmodeAddressed, allSafe_shift htwo]
    have hr := hrequest (.ofFrame rxBuffer size)
    rw [Iso15693_3Request.ofFrame, if_neg hflags] at hr ⊢
    rw [hr]
    exact ⟨fun h r hr => Option.some.inj hr ▸ h, fun h => h _ rfl⟩

lemma frameAccesses_safe_iff (hpos : 1 ≤ l.data.blockCount) (hcount : l.data.blockCount ≤ 256)
    (hsize : 1 ≤ l.data.blockSize) (hsize' : l.data.blockSize ≤ 32) (rxBuffer : Memory)
    (size : Nat) :
    (∀ access ∈ l.frameAccesses rxBuffer size, access.Safe size l.data.blockCount) ↔
      ∀ r ∈ l.requestTaken (.frame rxBuffer size), l.RequestInside r := by
  have hsafe := processRequest_safe_iff (l := { l with txBuffer := [] }) hpos hcount hsize hsize'
    rxBuffer size
  rw [requestTaken_txBuffer] at hsafe
  refine hsafe.trans (forall₂_congr fun r _ => ?_)
  exact RequestInside.of_eq rfl rfl

end Iso15693_3Listener

open Iso15693_3Listener

/-- On a card of 1 to 256 blocks of 1 to 32 bytes, the listener stays within the frame, the blocks
and the transmit buffer if and only if the standard request it takes up, if there is one, keeps the
conditions on the requests for several blocks. -/
theorem iso15693_3Listener_accessSafe (l : Iso15693_3Listener)
    (hpos : 1 ≤ l.data.blockCount) (hcount : l.data.blockCount ≤ 256)
    (hsize : 1 ≤ l.data.blockSize) (hsize' : l.data.blockSize ≤ 32) (rxBuffer : Memory)
    (size : Nat) :
    (∀ access ∈ l.frameAccesses rxBuffer size, access.Safe size l.data.blockCount) ↔
      ∀ r ∈ l.requestTaken (.frame rxBuffer size), l.RequestInside r :=
  frameAccesses_safe_iff hpos hcount hsize hsize' rxBuffer size

/-- A multiple write of two blocks to block 0 of a blank card stays within bounds. -/
theorem iso15693_3Listener_accessSafe_write :
    iso15693_3Blank.frameAccesses
        (fun i => ([0x02, 0x24, 0, 1, 0xA0, 0xA1, 0xB0, 0xB1] : List (BitVec 8)).getD i 0) 8 ≠ [] ∧
      ∀ access ∈ iso15693_3Blank.frameAccesses
          (fun i => ([0x02, 0x24, 0, 1, 0xA0, 0xA1, 0xB0, 0xB1] : List (BitVec 8)).getD i 0) 8,
        access.Safe 8 4 := by
  refine ⟨by decide +kernel, (iso15693_3Listener_accessSafe iso15693_3Blank (by decide) (by decide)
    (by decide) (by decide) _ _).mpr fun r hr => ?_⟩
  cases Option.some.inj hr
  exact ⟨fun h => absurd h (by decide), fun _ _ _ _ => by decide, fun _ _ => by decide,
    fun h => absurd h (by decide)⟩

/-- A multiple write of one block of two bytes to block 1 reads the bytes behind the request; a write
to block 5 of a card of four blocks looks up the lock of block 5. -/
theorem iso15693_3Listener_accessUnsafe :
    (.request 6 ∈ iso15693_3Blank.frameAccesses
        (fun i => ([0x02, 0x24, 1, 0, 0xA0, 0xA1] : List (BitVec 8)).getD i 0) 6 ∧
      ¬ (Iso15693_3Access.request 6).Safe 6 4) ∧
    (.block 5 ∈ iso15693_3Blank.frameAccesses
        (fun i => ([0x02, 0x24, 5, 0, 0xA0, 0xA1] : List (BitVec 8)).getD i 0) 6 ∧
      ¬ (Iso15693_3Access.block 5).Safe 6 4) := by
  decide +kernel

/-! ### Stale bytes -/

/-- Two events that differ at most in the bytes of the receive buffer behind the frame. -/
def Iso15693_3NfcEvent.SameFrame : Iso15693_3NfcEvent → Iso15693_3NfcEvent → Prop
  | .frame rxBuffer size, .frame rxBuffer' size' =>
    size = size' ∧ ∀ i < size, rxBuffer i = rxBuffer' i
  | .eof, .eof           => True
  | .wrongCrc, .wrongCrc => True
  | _, _                 => False

/-- A card of 1 to 256 blocks of 1 to 32 bytes. -/
structure Iso15693_3Data.Bounded (data : Iso15693_3Data) : Prop where
  blockCount : 1 ≤ data.blockCount ∧ data.blockCount ≤ 256
  blockSize : 1 ≤ data.blockSize ∧ data.blockSize ≤ 32

namespace Iso15693_3Listener

/-- The request that is taken up, if there is one, has a handler, which stays within its bounds. The
command code 0 calls what stands in front of the table of handlers. -/
def Inside (l : Iso15693_3Listener) (event : Iso15693_3NfcEvent) : Prop :=
  ∀ r ∈ l.requestTaken event, r.command ≠ 0 ∧ l.RequestInside r

/-- A call within bounds does not depend on what is behind the frame. -/
lemma run_sameFrame {l : Iso15693_3Listener} {event event' : Iso15693_3NfcEvent}
    (hcard : l.data.Bounded) (hsame : event.SameFrame event') (hinside : l.Inside event) :
    l.run event = l.run event' := by
  cases event <;> cases event' <;> try exact hsame.elim
  case frame.frame rxBuffer size rxBuffer' size' =>
    obtain ⟨rfl, hbytes⟩ := hsame
    have hsafe := (frameAccesses_safe_iff hcard.blockCount.1 hcard.blockCount.2 hcard.blockSize.1
      hcard.blockSize.2 rxBuffer size).mpr fun r hr => (hinside r hr).2
    exact run_congr fun i hi => hbytes i (hsafe _ hi)
  case eof.eof => rfl
  case wrongCrc.wrongCrc => rfl

lemma step_bounded {l : Iso15693_3Listener} (hcard : l.data.Bounded)
    (event : Iso15693_3NfcEvent) : (iso15693_3Listener.step l event).2.data.Bounded := by
  obtain ⟨hcount, hsize⟩ := (step_keepsLocked l event).geometry
  exact ⟨hcount ▸ hcard.blockCount, hsize ▸ hcard.blockSize⟩

lemma session_sameFrame {l : Iso15693_3Listener} (hcard : l.data.Bounded)
    {events events' : List Iso15693_3NfcEvent}
    (hsame : List.Forall₂ Iso15693_3NfcEvent.SameFrame events events')
    (hinside : iso15693_3Listener.Along Inside l events) :
    iso15693_3Listener.outputs l events = iso15693_3Listener.outputs l events' ∧
      iso15693_3Listener.final l events = iso15693_3Listener.final l events' := by
  induction hsame generalizing l with
  | nil => exact ⟨rfl, rfl⟩
  | @cons event event' events events' hevent _ ih =>
    have hstep : iso15693_3Listener.step l event = iso15693_3Listener.step l event' := by
      simp only [iso15693_3Listener, run_sameFrame hcard hevent hinside.1]
    obtain ⟨houtputs, hfinal⟩ := ih (step_bounded hcard event) hinside.2
    rw [Mealy.outputs_cons, Mealy.outputs_cons, Mealy.final_cons, Mealy.final_cons, ← hstep,
      houtputs, hfinal]
    exact ⟨rfl, rfl⟩

end Iso15693_3Listener

/-- In a whole session nothing that an earlier frame left in the receive buffer has an effect: as
long as each request that is taken up keeps the conditions on the requests for several blocks,
sessions of the same frames are answered alike and leave the same card, whatever is in the buffer
behind each frame. -/
theorem iso15693_3Listener_noStale {l : Iso15693_3Listener} (hcard : l.data.Bounded)
    {events events' : List Iso15693_3NfcEvent}
    (hsame : List.Forall₂ Iso15693_3NfcEvent.SameFrame events events')
    (hinside : iso15693_3Listener.Along Inside l events) :
    iso15693_3Listener.outputs l events = iso15693_3Listener.outputs l events' ∧
      iso15693_3Listener.final l events = iso15693_3Listener.final l events' :=
  session_sameFrame hcard hsame hinside

lemma iso15693_3Blank_bounded : iso15693_3Blank.data.Bounded := ⟨by decide, by decide⟩

/-- A multiple write to the first two blocks behind a longer frame, and a read of block 1. -/
theorem iso15693_3Listener_noStale_read :
    iso15693_3Listener.outputs iso15693_3Blank
        [.frame (fun i => ([0x02, 0x24, 0, 1, 0xA0, 0xA1, 0xB0, 0xB1, 0xC0] :
            List (BitVec 8)).getD i 0) 8,
          .frame (fun i => ([0x02, 0x20, 1, 0xA0, 0xA1] : List (BitVec 8)).getD i 0) 3] =
      iso15693_3Listener.outputs iso15693_3Blank
        [iso15693_3Frame [0x02, 0x24, 0, 1, 0xA0, 0xA1, 0xB0, 0xB1],
          iso15693_3Frame [0x02, 0x20, 1]] := by
  refine And.left (iso15693_3Listener_noStale iso15693_3Blank_bounded ?_ ⟨?_, ?_, trivial⟩)
  · exact .cons ⟨rfl, by decide⟩ (.cons ⟨rfl, by decide⟩ .nil)
  · intro r hr
    cases Option.some.inj hr
    exact ⟨by decide, fun h => absurd h (by decide), fun _ _ _ _ => by decide,
      fun _ _ => by decide, fun h => absurd h (by decide)⟩
  · intro r hr
    cases Option.some.inj hr
    exact ⟨by decide, fun h => absurd h (by decide), fun h => absurd h (by decide),
      fun h => absurd h (by decide), fun h => absurd h (by decide)⟩

end FlipperZero
