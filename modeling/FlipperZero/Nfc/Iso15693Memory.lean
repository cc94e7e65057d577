import FlipperZero.Nfc.Iso15693Listener
import Mathlib.Data.List.Range

/-!
# The memory of the ISO15693-3 listener

What the writes of a run leave in the blocks, what the reads answer, and that a lock is final.
The multiple write looks the chunk for a block up by the number of the block, so it puts the
right chunks in place from block 0 only, and it copies what lies behind the frame from there on;
the multiple read goes one block too far unless the memory ends there.
-/

namespace FlipperZero

open Foundation

/-! ### Requests and what they ask for -/

/-- A request as a reader means it: `data` is what follows the command and, in addressed mode,
the UID. -/
structure Iso15693_3Request where
  flags : BitVec 8
  command : BitVec 8
  data : Memory
  dataSize : Nat

namespace Iso15693_3Request

def ofFrame (rxBuffer : Memory) (size : Nat) : Iso15693_3Request :=
  let offset := if (rxBuffer 0).getLsbD 2 = false ∧ (rxBuffer 0).getLsbD 5 then 10 else 2
  { flags := rxBuffer 0
    command := rxBuffer 1
    data := fun i => rxBuffer (offset + i)
    dataSize := size - offset }

variable (r : Iso15693_3Request)

/-- The block the request names first. -/
def start : Nat := (r.data 0).toNat

/-- The number of blocks of a multiple request: its count field plus one. -/
def count : Nat := (r.data 1).toNat + 1

/-- The `k`-th chunk of a write, for blocks of a size, when the chunks stand from `offset` on. -/
def chunk (offset blockSize k : Nat) : List (BitVec 8) :=
  (List.range blockSize).map fun j => r.data (offset + blockSize * k + j)

/-- What a write request asks for: the first block and the chunks for it and the blocks behind. -/
def write (blockSize : Nat) : Option (Nat × List (List (BitVec 8))) :=
  if r.command = 0x21 then some (r.start, [r.chunk 1 blockSize 0])
  else if r.command = 0x24 then
    some (r.start, (List.range r.count).map (r.chunk 2 blockSize))
  else none

def blocksRead : Option (List Nat) :=
  if r.command = 0x20 then some [r.start]
  else if r.command = 0x23 then some (List.range' r.start r.count)
  else none

end Iso15693_3Request

/-- The contents of blocks after a write of chunks from a block on. -/
def writeBlocks (blocks : Nat → List (BitVec 8)) (write : Nat × List (List (BitVec 8))) :
    Nat → List (BitVec 8) := fun b =>
  if write.1 ≤ b ∧ b < write.1 + write.2.length then write.2.getD (b - write.1) [] else blocks b

namespace Iso15693_3Data

variable (data : Iso15693_3Data) (b : Nat)

def block : List (BitVec 8) :=
  (List.range data.blockSize).map fun j => data.blockData.data (b * data.blockSize + j)

/-- The block is locked in the security status of the card. -/
def Locked : Prop := b < data.blockSecurity.count ∧ data.blockSecurity.data b ≠ 0

instance : Decidable (data.Locked b) := inferInstanceAs (Decidable (_ ∧ _))

/-- The answer to a read of blocks, in order, each with its security status if asked for. -/
def readAnswer (option : Bool) (blocks : List Nat) : List (BitVec 8) :=
  blocks.flatMap fun b => (if option then [data.blockSecurity.data b] else []) ++ data.block b

end Iso15693_3Data

namespace Iso15693_3Listener

def requestTaken (l : Iso15693_3Listener) : Iso15693_3NfcEvent → Option Iso15693_3Request
  | .frame rxBuffer size =>
    if 2 ≤ size ∧ (l.selectMode (rxBuffer 0)).1 = .none ∧ (rxBuffer 1).toNat < 0xA0 ∧
        ((rxBuffer 0).getLsbD 2 = false → (rxBuffer 0).getLsbD 5 = true →
          10 ≤ size ∧ l.data.isEqualUid fun i => rxBuffer (2 + i)) then
      some (.ofFrame rxBuffer size)
    else none
  | _ => none

/-- The write that the listener accepts at an event: one that its handler ends without an
error. -/
def acceptedWrite (l : Iso15693_3Listener) (event : Iso15693_3NfcEvent) :
    Option (Nat × List (List (BitVec 8))) :=
  match l.run event with
  | some (⟨.none, _⟩, _) => (l.requestTaken event).bind (·.write l.data.blockSize)
  | _ => none

def acceptedWrites : Iso15693_3Listener → List Iso15693_3NfcEvent →
    List (Nat × List (List (BitVec 8)))
  | _, [] => []
  | l, event :: events =>
    (l.acceptedWrite event).toList ++ acceptedWrites (iso15693_3Listener.step l event).2 events

/-- A read that is answered without an error gets the blocks it asked for. -/
def AnswersRead (l : Iso15693_3Listener) (event : Iso15693_3NfcEvent) : Prop :=
  ∀ frame l', l.run event = some (⟨.none, some frame⟩, l') →
    ∀ r ∈ l.requestTaken event, ∀ blocks ∈ r.blocksRead,
      frame = 0 :: l.data.readAnswer (r.flags.getLsbD 6) blocks

/-- The conditions under which the multiple write is carried out. -/
structure AcceptsWriteMulti (l : Iso15693_3Listener) (r : Iso15693_3Request) : Prop where
  size : 2 < r.dataSize
  available : r.count ≤ asUInt32 (l.data.blockCount - r.start)
  blockSize : (r.dataSize - 2) / r.count = l.data.blockSize
  unlocked : anyBlockLocked l.data (List.range' r.start r.count) = some false

instance (l : Iso15693_3Listener) (r : Iso15693_3Request) : Decidable (l.AcceptsWriteMulti r) :=
  decidable_of_iff
    (2 < r.dataSize ∧ r.count ≤ asUInt32 (l.data.blockCount - r.start) ∧
      (r.dataSize - 2) / r.count = l.data.blockSize ∧
      anyBlockLocked l.data (List.range' r.start r.count) = some false)
    ⟨fun ⟨hsize, havailable, hblock, hunlocked⟩ => ⟨hsize, havailable, hblock, hunlocked⟩,
      fun h => ⟨h.size, h.available, h.blockSize, h.unlocked⟩⟩

lemma AcceptsWriteMulti.of_data {l l' : Iso15693_3Listener} {r : Iso15693_3Request}
    (h : l'.AcceptsWriteMulti r) (hdata : l'.data = l.data) : l.AcceptsWriteMulti r := by
  obtain ⟨hsize, havailable, hblock, hunlocked⟩ := h
  rw [hdata] at havailable hblock hunlocked
  exact ⟨hsize, havailable, hblock, hunlocked⟩

/-- The requests on which the listener does what they ask for: no command code 0, a multiple write
that is carried out starts at block 0, a multiple read ends with the last block of the memory. -/
def RequestGuarded (l : Iso15693_3Listener) (event : Iso15693_3NfcEvent) : Prop :=
  ∀ r ∈ l.requestTaken event,
    r.command ≠ 0 ∧
    (r.command = 0x24 → l.AcceptsWriteMulti r → r.start = 0) ∧
    (r.command = 0x23 → r.dataSize = 2 →
      r.start + r.count = l.data.blockCount ∧ l.data.blockCount ≤ 256)

instance (l : Iso15693_3Listener) (event : Iso15693_3NfcEvent) :
    Decidable (l.RequestGuarded event) :=
  inferInstanceAs (Decidable (∀ r ∈ l.requestTaken event, _))

/-- What is locked in the first card has the same value in the second and is locked there, and the
second card has as many blocks of the same size. -/
structure KeepsLocked (card card' : Iso15693_3Data) : Prop where
  block (b : Nat) : card.Locked b → card'.Locked b ∧ card'.block b = card.block b
  afi : card.lockBits.afi = true →
    card'.lockBits.afi = true ∧ card'.systemInfo.afi = card.systemInfo.afi
  dsfid : card.lockBits.dsfid = true →
    card'.lockBits.dsfid = true ∧ card'.systemInfo.dsfid = card.systemInfo.dsfid
  geometry : card'.blockCount = card.blockCount ∧ card'.blockSize = card.blockSize

variable {l l' : Iso15693_3Listener} {data : Memory} {dataSize : Nat} {flags : BitVec 8}
  {error : Iso15693_3Error} {i b : Nat}

/-! ### Appending to the answer -/

/-- The second listener has the data of the first and a longer answer. -/
structure Appends (l l' : Iso15693_3Listener) (bytes : List (BitVec 8)) : Prop where
  data : l'.data = l.data
  txBuffer : l'.txBuffer = l.txBuffer ++ bytes

lemma Appends.refl (l : Iso15693_3Listener) : Appends l l [] := ⟨rfl, (List.append_nil _).symm⟩

lemma Appends.trans {l'' : Iso15693_3Listener} {xs ys : List (BitVec 8)}
    (h : Appends l l' xs) (h' : Appends l' l'' ys) : Appends l l'' (xs ++ ys) where
  data := h'.data.trans h.data
  txBuffer := by rw [h'.txBuffer, h.txBuffer, List.append_assoc]

lemma appends_append {bytes : List (BitVec 8)} (h : l.append bytes = some l') :
    Appends l l' bytes := by
  unfold append at h
  split_ifs at h
  cases h
  exact ⟨rfl, rfl⟩

lemma appends_cget {array : SimpleArray} {index size : Nat}
    (h : (array.cget index size).bind l.append = some l') :
    Appends l l' ((List.range size).map fun j => array.data (index + j)) := by
  obtain ⟨bytes, hbytes, happend⟩ := Option.bind_eq_some_iff.mp h
  unfold SimpleArray.cget at hbytes
  split_ifs at hbytes
  cases hbytes
  exact appends_append happend

lemma appends_appendBlockAnswer (h : l.appendBlockAnswer flags i = some l') :
    Appends l l' (l.data.readAnswer (flags.getLsbD 6) [i % 256]) := by
  obtain ⟨l₁, hsecurity, hblock⟩ := Option.bind_eq_some_iff.mp h
  have h₁ : Appends l l₁
      (if flags.getLsbD 6 then [l.data.blockSecurity.data (i % 256)] else []) := by
    split_ifs at hsecurity ⊢
    · exact appends_cget hsecurity
    · cases hsecurity
      exact .refl l
  have h₂ : Appends l₁ l' (l₁.data.block (i % 256)) := appends_cget hblock
  rw [h₁.data] at h₂
  rw [Iso15693_3Data.readAnswer, List.flatMap_singleton]
  exact h₁.trans h₂

lemma appends_appendBlocks {is : List Nat} :
    ∀ {l : Iso15693_3Listener}, appendBlocks flags is l = some l' →
      Appends l l' (l.data.readAnswer (flags.getLsbD 6) (is.map (· % 256))) := by
  induction is with
  | nil =>
    intro l h
    cases h
    exact .refl _
  | cons i is ih =>
    intro l h
    obtain ⟨l₁, hfirst, hrest⟩ := Option.bind_eq_some_iff.mp h
    have h₁ := appends_appendBlockAnswer hfirst
    have h₂ := ih hrest
    rw [h₁.data] at h₂
    have happend := h₁.trans h₂
    rwa [Iso15693_3Data.readAnswer, Iso15693_3Data.readAnswer, List.flatMap_singleton] at happend

lemma appendBlocksLocked_data {is : List Nat} :
    ∀ {l : Iso15693_3Listener}, appendBlocksLocked is l = some l' → l'.data = l.data := by
  induction is with
  | nil =>
    intro l h
    cases h
    rfl
  | cons i is ih =>
    intro l h
    obtain ⟨locked, -, h⟩ := Option.bind_eq_some_iff.mp h
    obtain ⟨l₁, happend, hrest⟩ := Option.bind_eq_some_iff.mp h
    exact (ih hrest).trans (appends_append happend).data

/-! ### Writing blocks -/

/-- Only one block differs, and it holds the bytes. -/
structure WritesBlock (card card' : Iso15693_3Data) (i : Nat) (bytes : List (BitVec 8)) :
    Prop where
  systemInfo : card'.systemInfo = card.systemInfo
  lockBits : card'.lockBits = card.lockBits
  blockSecurity : card'.blockSecurity = card.blockSecurity
  block (b : Nat) : card'.block b = if b = i then bytes else card.block b

lemma writesBlock_setBlockData {card card' : Iso15693_3Data} {bytes : List (BitVec 8)}
    (hbytes : bytes.length = card.blockSize) (h : card.setBlockData i bytes = some card') :
    WritesBlock card card' (i % 256) bytes := by
  unfold Iso15693_3Data.setBlockData at h
  dsimp only at h
  split_ifs at h
  cases h
  refine ⟨rfl, rfl, rfl, fun b => ?_⟩
  generalize i % 256 = i
  have hsize : ∀ j < card.blockSize, (b * card.blockSize + j) / card.blockSize = b := by
    intro j hj
    rw [Nat.add_comm, Nat.add_mul_div_right _ _ (Nat.zero_lt_of_lt hj), Nat.div_eq_of_lt hj,
      Nat.zero_add]
  split_ifs with hb
  · subst hb
    refine List.ext_getElem (by simp [Iso15693_3Data.block, Iso15693_3Data.blockSize, hbytes]) ?_
    intro j _ hj
    have hin : b * card.blockSize ≤ b * card.blockSize + j ∧
        b * card.blockSize + j < b * card.blockSize + bytes.length :=
      ⟨Nat.le_add_right _ _, Nat.add_lt_add_left hj _⟩
    have hget : card.blockData.data.copy (b * card.blockSize) bytes (b * card.blockSize + j) =
        bytes[j] := by
      rw [Memory.copy, if_pos hin, Nat.add_sub_cancel_left, List.getD_eq_getElem _ _ hj]
    simp only [Iso15693_3Data.block, List.getElem_map, List.getElem_range]
    exact hget
  · refine List.map_congr_left fun j hj => if_neg ?_
    rintro ⟨hle, hlt⟩
    -- the address lies in block `b`, so it is not one of the block that is written
    have hj : j < card.blockSize := List.mem_range.mp hj
    apply hb
    rw [← hsize j hj]
    refine Nat.div_eq_of_lt_le hle ?_
    rw [hbytes] at hlt
    rwa [Nat.succ_mul]

lemma setBlocks_block {chunk : Nat → List (BitVec 8)} {is : List Nat} :
    ∀ {card card' : Iso15693_3Data}, (∀ i, (chunk i).length = card.blockSize) →
      (∀ i ∈ is, i < 256) → setBlocks chunk is card = some card' →
        card'.block b = if b ∈ is then chunk b else card.block b := by
  induction is with
  | nil =>
    intro card card' _ _ h
    cases h
    rfl
  | cons i is ih =>
    intro card card' hchunk his h
    obtain ⟨card₁, hfirst, hrest⟩ := Option.bind_eq_some_iff.mp h
    have hw := writesBlock_setBlockData (hchunk i) hfirst
    rw [Nat.mod_eq_of_lt (his i List.mem_cons_self)] at hw
    have hsize : card₁.blockSize = card.blockSize := by
      rw [Iso15693_3Data.blockSize, hw.systemInfo, Iso15693_3Data.blockSize]
    rw [ih (fun j => (hchunk j).trans hsize.symm)
      (fun j hj => his j (List.mem_cons_of_mem i hj)) hrest, hw.block b]
    rcases eq_or_ne b i with rfl | hb
    · simp
    · simp [hb]

/-! ### Locks -/

namespace KeepsLocked

variable {card card' card'' : Iso15693_3Data}

protected lemma refl (card : Iso15693_3Data) : KeepsLocked card card :=
  ⟨fun _ h => ⟨h, rfl⟩, fun h => ⟨h, rfl⟩, fun h => ⟨h, rfl⟩, ⟨rfl, rfl⟩⟩

protected lemma trans (h : KeepsLocked card card') (h' : KeepsLocked card' card'') :
    KeepsLocked card card'' where
  block b hb := by
    obtain ⟨hlocked, heq⟩ := h.block b hb
    obtain ⟨hlocked', heq'⟩ := h'.block b hlocked
    exact ⟨hlocked', heq'.trans heq⟩
  afi ha := by
    obtain ⟨hlocked, heq⟩ := h.afi ha
    obtain ⟨hlocked', heq'⟩ := h'.afi hlocked
    exact ⟨hlocked', heq'.trans heq⟩
  dsfid hd := by
    obtain ⟨hlocked, heq⟩ := h.dsfid hd
    obtain ⟨hlocked', heq'⟩ := h'.dsfid hlocked
    exact ⟨hlocked', heq'.trans heq⟩
  geometry := ⟨h'.geometry.1.trans h.geometry.1, h'.geometry.2.trans h.geometry.2⟩

lemma of_writesBlock {bytes : List (BitVec 8)} (h : WritesBlock card card' i bytes)
    (hi : ¬ card.Locked i) : KeepsLocked card card' where
  block b hb := by
    have hne : b ≠ i := by
      rintro rfl
      exact hi hb
    refine ⟨?_, by rw [h.block b, if_neg hne]⟩
    rw [Iso15693_3Data.Locked, h.blockSecurity]
    exact hb
  afi ha := ⟨by rw [h.lockBits, ha], by rw [h.systemInfo]⟩
  dsfid hd := ⟨by rw [h.lockBits, hd], by rw [h.systemInfo]⟩
  geometry := by
    simp only [Iso15693_3Data.blockCount, Iso15693_3Data.blockSize, h.systemInfo, and_self]

lemma setBlocks {chunk : Nat → List (BitVec 8)} {is : List Nat} :
    ∀ {card card' : Iso15693_3Data}, (∀ i, (chunk i).length = card.blockSize) →
      (∀ i ∈ is, ¬ card.Locked (i % 256)) →
        Iso15693_3Listener.setBlocks chunk is card = some card' → KeepsLocked card card' := by
  induction is with
  | nil =>
    intro card card' _ _ h
    cases h
    exact .refl _
  | cons i is ih =>
    intro card card' hchunk his h
    obtain ⟨card₁, hfirst, hrest⟩ := Option.bind_eq_some_iff.mp h
    have hw := writesBlock_setBlockData (hchunk i) hfirst
    have hsize : card₁.blockSize = card.blockSize := by
      rw [Iso15693_3Data.blockSize, hw.systemInfo, Iso15693_3Data.blockSize]
    refine (of_writesBlock hw (his i List.mem_cons_self)).trans
      (ih (fun j => (hchunk j).trans hsize.symm) (fun j hj => ?_) hrest)
    rw [Iso15693_3Data.Locked, hw.blockSecurity]
    exact his j (List.mem_cons_of_mem i hj)

end KeepsLocked

lemma not_locked_of_isBlockLocked {card : Iso15693_3Data}
    (h : card.isBlockLocked i = some false) : ¬ card.Locked (i % 256) := by
  rintro ⟨hlt, hne⟩
  unfold Iso15693_3Data.isBlockLocked at h
  dsimp only at h
  split_ifs at h with _ hcount
  · exact hne (by simpa using h)
  · exact hcount (Nat.ne_zero_of_lt hlt)

lemma not_locked_of_anyBlockLocked {card : Iso15693_3Data} {is : List Nat}
    (h : anyBlockLocked card is = some false) : ∀ i ∈ is, ¬ card.Locked (i % 256) := by
  induction is with
  | nil => exact fun i hi => absurd hi List.not_mem_nil
  | cons j is ih =>
    obtain ⟨locked, hfirst, hrest⟩ := Option.bind_eq_some_iff.mp h
    cases locked with
    | true => cases hrest
    | false =>
      intro i hi
      rcases List.mem_cons.mp hi with rfl | hi
      · exact not_locked_of_isBlockLocked hfirst
      · exact ih hrest i hi

/-! ### The handlers -/

variable {r : Iso15693_3Request}

lemma inventoryHandler_data (h : l.inventoryHandler data dataSize flags = some (error, l')) :
    l'.data = l.data := by
  unfold inventoryHandler at h
  dsimp only at h
  split_ifs at h
  all_goals try (cases h; rfl)
  all_goals
    obtain ⟨l₁, h₁, h⟩ := Option.bind_eq_some_iff.mp h
    obtain ⟨l₂, h₂, h⟩ := Option.bind_eq_some_iff.mp h
    cases h
    exact (appends_append h₂).data.trans (appends_append h₁).data

lemma readBlockHandler_data (h : l.readBlockHandler data dataSize flags = some (error, l')) :
    l'.data = l.data := by
  unfold readBlockHandler at h
  dsimp only at h
  split_ifs at h
  · cases h; rfl
  · cases h; rfl
  · obtain ⟨l₁, h₁, h⟩ := Option.bind_eq_some_iff.mp h
    cases h
    exact (appends_appendBlockAnswer h₁).data

lemma readMultiBlocksHandler_data
    (h : l.readMultiBlocksHandler data dataSize flags = some (error, l')) :
    l'.data = l.data := by
  unfold readMultiBlocksHandler at h
  dsimp only at h
  split_ifs at h
  · cases h; rfl
  · obtain ⟨l₁, h₁, h⟩ := Option.bind_eq_some_iff.mp h
    cases h
    exact (appends_appendBlocks h₁).data

lemma getMultiBlocksSecurityHandler_data
    (h : l.getMultiBlocksSecurityHandler data dataSize = some (error, l')) :
    l'.data = l.data := by
  unfold getMultiBlocksSecurityHandler at h
  dsimp only at h
  split_ifs at h
  · cases h; rfl
  · cases h; rfl
  · obtain ⟨l₁, h₁, h⟩ := Option.bind_eq_some_iff.mp h
    cases h
    exact appendBlocksLocked_data h₁

lemma writeBlockHandler_cases
    (h : l.writeBlockHandler r.data r.dataSize r.flags = some (error, l')) :
    error ≠ .none ∧ l'.data = l.data ∨
      error = .none ∧ ¬ l.data.Locked r.start ∧
        WritesBlock l.data l'.data r.start (r.chunk 1 l.data.blockSize 0) := by
  unfold writeBlockHandler at h
  dsimp only at h
  have hstart : (r.data 0).toNat % 256 = r.start := Nat.mod_eq_of_lt (r.data 0).isLt
  split_ifs at h with _ _ hsize
  · cases h; exact .inl ⟨nofun, rfl⟩
  · cases h; exact .inl ⟨nofun, rfl⟩
  · cases h; exact .inl ⟨nofun, rfl⟩
  · obtain ⟨locked, hlocked, h⟩ := Option.bind_eq_some_iff.mp h
    cases locked with
    | true => cases h; exact .inl ⟨nofun, rfl⟩
    | false =>
      obtain ⟨card, hset, h⟩ := Option.bind_eq_some_iff.mp h
      cases h
      have hfree := not_locked_of_isBlockLocked hlocked
      have hw := writesBlock_setBlockData (by simpa using hsize) hset
      have hsize : r.dataSize - 1 = l.data.blockSize := not_not.mp hsize
      rw [hstart] at hfree hw
      rw [hsize] at hw
      have hchunk : r.chunk 1 l.data.blockSize 0 =
          (List.range l.data.blockSize).map fun j => r.data (1 + j) := by
        simp [Iso15693_3Request.chunk]
      rw [hchunk]
      exact .inr ⟨rfl, hfree, hw⟩

lemma writeMultiBlocksHandler_cases
    (h : l.writeMultiBlocksHandler r.data r.dataSize r.flags = some (error, l')) :
    error ≠ .none ∧ l'.data = l.data ∨
      error = .none ∧ l.AcceptsWriteMulti r ∧
        setBlocks (r.chunk 2 l.data.blockSize) (List.range' r.start r.count) l.data =
          some l'.data := by
  unfold writeMultiBlocksHandler at h
  dsimp only at h
  split_ifs at h with hmin havailable hsize
  · cases h; exact .inl ⟨nofun, rfl⟩
  · cases h; exact .inl ⟨nofun, rfl⟩
  · cases h; exact .inl ⟨nofun, rfl⟩
  · obtain ⟨locked, hlocked, h⟩ := Option.bind_eq_some_iff.mp h
    cases locked with
    | true => cases h; exact .inl ⟨nofun, rfl⟩
    | false =>
      obtain ⟨card, hset, h⟩ := Option.bind_eq_some_iff.mp h
      cases h
      have hsize : (r.dataSize - 2) / r.count = l.data.blockSize := not_not.mp hsize
      rw [show (r.dataSize - 2) / ((r.data 1).toNat + 1) = l.data.blockSize from hsize] at hset
      exact .inr ⟨rfl,
        ⟨Nat.lt_of_not_le hmin, Nat.le_of_not_lt havailable, hsize, hlocked⟩, hset⟩

/-- A handler that writes no block. -/
structure WritesNoBlock (l l' : Iso15693_3Listener) : Prop where
  keepsLocked : KeepsLocked l.data l'.data
  block (b : Nat) : l'.data.block b = l.data.block b

lemma WritesNoBlock.of_data (h : l'.data = l.data) : WritesNoBlock l l' := by
  constructor
  · rw [h]
    exact .refl _
  · intro b
    rw [h]

lemma lockBlockHandler_writesNoBlock
    (h : l.lockBlockHandler data dataSize flags = some (error, l')) : WritesNoBlock l l' := by
  unfold lockBlockHandler at h
  dsimp only at h
  split_ifs at h
  · cases h; exact .of_data rfl
  · cases h; exact .of_data rfl
  · obtain ⟨locked, -, h⟩ := Option.bind_eq_some_iff.mp h
    cases locked with
    | true => cases h; exact .of_data rfl
    | false =>
      obtain ⟨card, hset, h⟩ := Option.bind_eq_some_iff.mp h
      cases h
      unfold Iso15693_3Data.setBlockLocked at hset
      dsimp only at hset
      rw [if_pos (rfl : true = true)] at hset
      split_ifs at hset
      cases hset
      refine ⟨⟨fun b hb => ⟨⟨hb.1, ?_⟩, rfl⟩, fun ha => ⟨ha, rfl⟩, fun hd => ⟨hd, rfl⟩,
        ⟨rfl, rfl⟩⟩, fun b => rfl⟩
      -- the status byte of a block becomes 1 or stays
      show l.data.blockSecurity.data.copy _ [1] b ≠ 0
      rcases Nat.lt_trichotomy b ((data 0).toNat % 256) with hlt | rfl | hgt
      · rw [Memory.copy_of_lt hlt]
        exact hb.2
      · simp [Memory.copy]
      · rw [Memory.copy_of_ge hgt]
        exact hb.2

lemma writeAfiHandler_writesNoBlock
    (h : l.writeAfiHandler data dataSize flags = some (error, l')) : WritesNoBlock l l' := by
  unfold writeAfiHandler at h
  dsimp only at h
  split_ifs at h with _ hlocked
  · cases h; exact .of_data rfl
  · cases h; exact .of_data rfl
  · cases h
    exact ⟨⟨fun b hb => ⟨hb, rfl⟩, fun ha => absurd ha hlocked, fun hd => ⟨hd, rfl⟩, ⟨rfl, rfl⟩⟩,
      fun b => rfl⟩

lemma lockAfiHandler_writesNoBlock
    (h : l.lockAfiHandler flags = some (error, l')) : WritesNoBlock l l' := by
  unfold lockAfiHandler at h
  dsimp only at h
  split_ifs at h
  · cases h; exact .of_data rfl
  · cases h
    exact ⟨⟨fun b hb => ⟨hb, rfl⟩, fun _ => ⟨rfl, rfl⟩, fun hd => ⟨hd, rfl⟩, ⟨rfl, rfl⟩⟩,
      fun b => rfl⟩

lemma writeDsfidHandler_writesNoBlock
    (h : l.writeDsfidHandler data dataSize flags = some (error, l')) : WritesNoBlock l l' := by
  unfold writeDsfidHandler at h
  dsimp only at h
  split_ifs at h with _ hlocked
  · cases h; exact .of_data rfl
  · cases h; exact .of_data rfl
  · cases h
    exact ⟨⟨fun b hb => ⟨hb, rfl⟩, fun ha => ⟨ha, rfl⟩, fun hd => absurd hd hlocked, ⟨rfl, rfl⟩⟩,
      fun b => rfl⟩

lemma lockDsfidHandler_writesNoBlock
    (h : l.lockDsfidHandler flags = some (error, l')) : WritesNoBlock l l' := by
  unfold lockDsfidHandler at h
  dsimp only at h
  split_ifs at h
  · cases h; exact .of_data rfl
  · cases h
    exact ⟨⟨fun b hb => ⟨hb, rfl⟩, fun ha => ⟨ha, rfl⟩, fun _ => ⟨rfl, rfl⟩, ⟨rfl, rfl⟩⟩,
      fun b => rfl⟩

lemma appendField_data {flag : Bool} {bytes : List (BitVec 8)}
    (h : l.appendField flag bytes = some l') : l'.data = l.data := by
  unfold appendField at h
  split_ifs at h
  · exact (appends_append h).data
  · cases h; rfl

lemma getSystemInfoHandler_data (h : l.getSystemInfoHandler = some (error, l')) :
    l'.data = l.data := by
  obtain ⟨l₁, h₁, h⟩ := Option.bind_eq_some_iff.mp h
  obtain ⟨l₂, h₂, h⟩ := Option.bind_eq_some_iff.mp h
  obtain ⟨l₃, h₃, h⟩ := Option.bind_eq_some_iff.mp h
  obtain ⟨l₄, h₄, h⟩ := Option.bind_eq_some_iff.mp h
  obtain ⟨l₅, h₅, h⟩ := Option.bind_eq_some_iff.mp h
  obtain ⟨l₆, h₆, h⟩ := Option.bind_eq_some_iff.mp h
  cases h
  rw [appendField_data h₆, appendField_data h₅, appendField_data h₄, appendField_data h₃,
    (appends_append h₂).data, (appends_append h₁).data]

lemma handler_writesNoBlock {command : BitVec 8} (h21 : command ≠ 0x21) (h24 : command ≠ 0x24)
    (h : l.handler data dataSize flags command = some (some (error, l'))) :
    WritesNoBlock l l' := by
  unfold handler at h
  split at h
  · exact .of_data (inventoryHandler_data (Option.some.inj h))
  · cases h; exact .of_data rfl
  · exact .of_data (readBlockHandler_data (Option.some.inj h))
  · exact absurd rfl h21
  · exact lockBlockHandler_writesNoBlock (Option.some.inj h)
  · exact .of_data (readMultiBlocksHandler_data (Option.some.inj h))
  · exact absurd rfl h24
  · unfold selectHandler at h
    split_ifs at h <;> cases h <;> exact .of_data rfl
  · cases h; exact .of_data rfl
  · exact writeAfiHandler_writesNoBlock (Option.some.inj h)
  · exact lockAfiHandler_writesNoBlock (Option.some.inj h)
  · exact writeDsfidHandler_writesNoBlock (Option.some.inj h)
  · exact lockDsfidHandler_writesNoBlock (Option.some.inj h)
  · exact .of_data (getSystemInfoHandler_data (Option.some.inj h))
  · exact .of_data (getMultiBlocksSecurityHandler_data (Option.some.inj h))
  · cases h

lemma length_chunk (offset blockSize k : Nat) : (r.chunk offset blockSize k).length = blockSize := by
  simp [Iso15693_3Request.chunk]

lemma handler_keepsLocked
    (h : l.handler r.data r.dataSize r.flags r.command = some (some (error, l'))) :
    KeepsLocked l.data l'.data := by
  by_cases h21 : r.command = 0x21
  · rw [h21] at h
    rcases writeBlockHandler_cases (Option.some.inj h) with ⟨-, hdata⟩ | ⟨-, hfree, hw⟩
    · rw [hdata]
      exact .refl _
    · exact .of_writesBlock hw hfree
  · by_cases h24 : r.command = 0x24
    · rw [h24] at h
      rcases writeMultiBlocksHandler_cases (Option.some.inj h) with ⟨-, hdata⟩ | ⟨-, hr, hset⟩
      · rw [hdata]
        exact .refl _
      · exact .setBlocks (length_chunk 2 l.data.blockSize)
          (not_locked_of_anyBlockLocked hr.unlocked) hset
    · exact (handler_writesNoBlock h21 h24 h).keepsLocked

/-- A request that is refused writes nothing, the others write what they ask for. -/
lemma handler_block (hmulti : r.command = 0x24 → l.AcceptsWriteMulti r → r.start = 0)
    (h : l.handler r.data r.dataSize r.flags r.command = some (some (error, l'))) :
    l'.data.block = if error = .none then
      (r.write l.data.blockSize).elim l.data.block (writeBlocks l.data.block)
    else l.data.block := by
  funext b
  by_cases h21 : r.command = 0x21
  · rw [Iso15693_3Request.write, if_pos h21]
    rw [h21] at h
    rcases writeBlockHandler_cases (Option.some.inj h) with ⟨herror, hdata⟩ | ⟨rfl, -, hw⟩
    · rw [if_neg herror, hdata]
    · rw [if_pos rfl, hw.block b]
      rcases eq_or_ne b r.start with rfl | hb
      · simp [writeBlocks]
      · have hout : ¬ (r.start ≤ b ∧ b < r.start + 1) := by omega
        rw [if_neg hb]
        exact (if_neg hout).symm
  · by_cases h24 : r.command = 0x24
    · rw [Iso15693_3Request.write, if_neg h21, if_pos h24]
      rw [h24] at h
      rcases writeMultiBlocksHandler_cases (Option.some.inj h) with ⟨herror, hdata⟩ | ⟨rfl, hr, hset⟩
      · rw [if_neg herror, hdata]
      · have hstart := hmulti h24 hr
        have hcount : r.count ≤ 256 := (r.data 1).isLt
        rw [if_pos rfl, setBlocks_block (length_chunk 2 l.data.blockSize) ?_ hset]
        · rw [hstart]
          by_cases hb : b < r.count
          · simp [writeBlocks, List.mem_range'_1, hb]
          · simp [writeBlocks, List.mem_range'_1, hb]
        · intro i hi
          rw [hstart, List.mem_range'_1] at hi
          omega
    · rw [(handler_writesNoBlock h21 h24 h).block b, Iso15693_3Request.write, if_neg h21,
        if_neg h24]
      split_ifs <;> rfl

lemma handler_read {blocks : List Nat} (hblocks : r.blocksRead = some blocks)
    (hmulti : r.command = 0x23 → r.dataSize = 2 →
      r.start + r.count = l.data.blockCount ∧ l.data.blockCount ≤ 256)
    (h : l.handler r.data r.dataSize r.flags r.command = some (some (.none, l'))) :
    Appends l l' (l.data.readAnswer (r.flags.getLsbD 6) blocks) := by
  unfold Iso15693_3Request.blocksRead at hblocks
  split_ifs at hblocks with h20 h23
  · cases hblocks
    rw [h20] at h
    have h := Option.some.inj h
    unfold readBlockHandler at h
    dsimp only at h
    split_ifs at h
    · cases h
    · cases h
    · obtain ⟨l₁, h₁, h⟩ := Option.bind_eq_some_iff.mp h
      cases h
      have happend := appends_appendBlockAnswer h₁
      rwa [Nat.mod_eq_of_lt (r.data 0).isLt] at happend
  · cases hblocks
    rw [h23] at h
    have h := Option.some.inj h
    unfold readMultiBlocksHandler at h
    dsimp only at h
    rcases ne_or_eq r.dataSize 2 with hsize | hsize
    · rw [if_pos hsize] at h
      cases h
    rw [if_neg (not_not.mpr hsize)] at h
    obtain ⟨l₁, h₁, h⟩ := Option.bind_eq_some_iff.mp h
    cases h
    obtain ⟨hend, hmax⟩ := hmulti h23 hsize
    -- the minimum is the index of the last block
    have hlast : asUInt32 (l.data.blockCount - 1) = r.start + r.count - 1 := by
      have hcount : 0 < r.count := Nat.succ_pos _
      exact asUInt32_eq (by omega) (by omega)
    have hnumber : min ((r.data 0).toNat + (r.data 1).toNat + 1) (asUInt32 (l.data.blockCount - 1))
        + 1 - (r.data 0).toNat = r.count := by
      rw [hlast, Iso15693_3Request.start, Iso15693_3Request.count]
      omega
    have happend := appends_appendBlocks h₁
    rw [hnumber] at happend
    have hmap : (List.range' (r.data 0).toNat r.count).map (· % 256) =
        List.range' r.start r.count := by
      conv_rhs => rw [← List.map_id (List.range' r.start r.count)]
      refine List.map_congr_left fun i hi => Nat.mod_eq_of_lt ?_
      have hi := (List.mem_range'_1.mp hi).2
      rw [← Iso15693_3Request.start] at hi
      omega
    rwa [hmap] at happend

/-! ### One event -/

lemma selectMode_data (l : Iso15693_3Listener) (flags : BitVec 8) :
    (l.selectMode flags).2.data = l.data := by
  unfold selectMode
  dsimp only
  split_ifs <;> rfl

lemma selectMode_addressed (h : (l.selectMode flags).1 = .none) :
    (l.selectMode flags).2.sessionState.addressed = true ↔
      flags.getLsbD 2 = false ∧ flags.getLsbD 5 = true := by
  unfold selectMode at h ⊢
  dsimp only at h ⊢
  split_ifs at h ⊢ <;> simp_all

/-- What the listener takes up does not depend on the last answer. -/
lemma requestTaken_txBuffer (l : Iso15693_3Listener) (bytes : List (BitVec 8))
    (event : Iso15693_3NfcEvent) :
    { l with txBuffer := bytes }.requestTaken event = l.requestTaken event := by
  have hmode (flags : BitVec 8) :
      ({ l with txBuffer := bytes }.selectMode flags).1 = (l.selectMode flags).1 := by
    unfold selectMode
    dsimp only
    split_ifs <;> rfl
  cases event with
  | frame rxBuffer size => simp only [requestTaken, hmode]
  | eof => rfl
  | wrongCrc => rfl

lemma answer_cases {reply : Iso15693_3Reply} (h : l.answer error = some (reply, l')) :
    reply.error = error ∧ l'.data = l.data ∧
      ∀ frame, error = .none → reply.sent = some frame → frame = l.txBuffer := by
  unfold answer at h
  dsimp only at h
  split_ifs at h with hsilent herror heof
  · cases h; exact ⟨rfl, rfl, nofun⟩
  · cases h; exact ⟨rfl, rfl, nofun⟩
  · obtain ⟨frame, hframe, h⟩ := Option.map_eq_some_iff.mp h
    cases h
    unfold sendFrame at hframe
    split_ifs at hframe
    cases hframe
    exact ⟨rfl, rfl, fun _ _ hsent => (Option.some.inj hsent).symm⟩
  · cases h; exact ⟨rfl, rfl, nofun⟩
  · obtain ⟨frame, -, h⟩ := Option.map_eq_some_iff.mp h
    cases h
    exact ⟨rfl, rfl, fun _ hnone => absurd hnone herror⟩

/-- A handler takes up the request and the reply is its answer. -/
def Handled (l l' : Iso15693_3Listener) (r : Iso15693_3Request) (reply : Iso15693_3Reply) : Prop :=
  ∃ l₀ l₁ : Iso15693_3Listener, l₀.data = l.data ∧ l₀.txBuffer = [0] ∧
    l₀.handler r.data r.dataSize r.flags r.command = some (some (reply.error, l₁)) ∧
    l'.data = l₁.data ∧
    ∀ frame, reply.error = .none → reply.sent = some frame → frame = l₁.txBuffer

/-- What an event can do: a handler takes up the request it brings, or the card stays as it is and
no request is carried out. -/
def EventCases (l l' : Iso15693_3Listener) (request : Option Iso15693_3Request)
    (reply : Iso15693_3Reply) : Prop :=
  (∃ r, request = some r ∧ Handled l l' r reply) ∨
    l'.data = l.data ∧ (request = none ∨ reply.error ≠ .none)

variable {reply : Iso15693_3Reply} {rxBuffer : Memory} {size : Nat} {event : Iso15693_3NfcEvent}

lemma handleStandardRequest_cases
    (h : l.handleStandardRequest r.data r.dataSize r.flags r.command = some (reply, l')) :
    EventCases l l' (some r) reply := by
  unfold handleStandardRequest at h
  split_ifs at h
  split at h
  · cases h
    exact .inr ⟨rfl, .inr nofun⟩
  · rename_i result hhandler
    obtain ⟨⟨error, l₁⟩, hresult, hanswer⟩ := Option.bind_eq_some_iff.mp h
    obtain ⟨rfl, hdata, hsent⟩ := answer_cases hanswer
    rw [hresult] at hhandler
    exact .inl ⟨r, rfl, { l with txBuffer := [0] }, l₁, rfl, rfl, hhandler, hdata, hsent⟩

lemma handleCustomRequest_ne (l : Iso15693_3Listener) (data : Memory) (dataSize : Nat) :
    l.handleCustomRequest data dataSize ≠ .none := by
  unfold handleCustomRequest
  split_ifs <;> nofun

lemma processRequest_cases (h : l.processRequest rxBuffer size = some (reply, l')) :
    EventCases l l' (l.requestTaken (.frame rxBuffer size)) reply := by
  unfold processRequest at h
  dsimp only at h
  have hdata := selectMode_data l (rxBuffer 0)
  rcases Nat.lt_or_ge size 2 with hsize | hsize
  · rw [if_pos hsize] at h
    cases h
    exact .inr ⟨rfl, .inr nofun⟩
  rw [if_neg (Nat.not_lt.mpr hsize)] at h
  by_cases hmode : (l.selectMode (rxBuffer 0)).1 = .none
  swap
  · rw [if_pos hmode] at h
    cases h
    exact .inr ⟨hdata, .inr hmode⟩
  rw [if_neg (not_not.mpr hmode)] at h
  have haddressed := selectMode_addressed hmode
  -- the handler works on a listener with the data of `l`
  have hcases (request : Option Iso15693_3Request)
      (hcases : EventCases (l.selectMode (rxBuffer 0)).2 l' request reply) :
      EventCases l l' request reply := by
    unfold EventCases Handled at hcases ⊢
    rwa [hdata] at hcases
  split_ifs at h with hcustom hmodeAddressed hshort huid
  · cases h
    have hne := handleCustomRequest_ne (l.selectMode (rxBuffer 0)).2 (fun i => rxBuffer (2 + i))
      (size - 2)
    exact .inr ⟨hdata, .inr hne⟩
  · cases h
    exact .inr ⟨hdata, .inr nofun⟩
  · cases h
    exact .inr ⟨hdata, .inr nofun⟩
  · have hflags := haddressed.mp hmodeAddressed
    rw [hdata, Bool.not_eq_false] at huid
    have htaken : l.requestTaken (.frame rxBuffer size) = some (.ofFrame rxBuffer size) :=
      if_pos ⟨hsize, hmode, Nat.lt_of_not_le hcustom, fun _ _ => ⟨Nat.le_of_not_lt hshort, huid⟩⟩
    rw [htaken]
    apply hcases
    apply handleStandardRequest_cases
    rw [Iso15693_3Request.ofFrame, if_pos hflags]
    exact h
  · have hflags := mt haddressed.mpr hmodeAddressed
    have htaken : l.requestTaken (.frame rxBuffer size) = some (.ofFrame rxBuffer size) :=
      if_pos ⟨hsize, hmode, Nat.lt_of_not_le hcustom, fun h2 h5 => absurd ⟨h2, h5⟩ hflags⟩
    rw [htaken]
    apply hcases
    apply handleStandardRequest_cases
    rw [Iso15693_3Request.ofFrame, if_neg hflags]
    exact h

lemma run_cases (h : l.run event = some (reply, l')) :
    EventCases l l' (l.requestTaken event) reply := by
  cases event with
  | frame rxBuffer size =>
    obtain ⟨⟨_, l₁⟩, hrequest, h⟩ := Option.map_eq_some_iff.mp h
    cases h
    have hcases := processRequest_cases hrequest
    rw [requestTaken_txBuffer] at hcases
    have hdata : (if reply.error = .uidMismatch then l₁.processUidMismatch rxBuffer
        else l₁).data = l₁.data := by
      unfold processUidMismatch
      split_ifs <;> rfl
    unfold EventCases Handled at hcases ⊢
    rwa [hdata]
  | eof =>
    have h : { l with txBuffer := [] }.processSingleEof = some (reply, l') := h
    unfold processSingleEof at h
    refine .inr ⟨?_, .inl rfl⟩
    dsimp only at h
    split_ifs at h
    · obtain ⟨frame, -, h⟩ := Option.map_eq_some_iff.mp h
      cases h
      rfl
    · cases h
      rfl
  | wrongCrc =>
    cases h
    exact .inr ⟨rfl, .inl rfl⟩

lemma run_keepsLocked (h : l.run event = some (reply, l')) : KeepsLocked l.data l'.data := by
  rcases run_cases h with ⟨r, -, l₀, l₁, hdata, -, hhandler, hdata', -⟩ | ⟨hdata, -⟩
  · rw [hdata', ← hdata]
    exact handler_keepsLocked hhandler
  · rw [hdata]
    exact .refl _

lemma run_block (hguard : l.RequestGuarded event) (h : l.run event = some (reply, l')) :
    l'.data.block = (l.acceptedWrite event).elim l.data.block (writeBlocks l.data.block) := by
  have hwrite : l.acceptedWrite event = if reply.error = .none then
      (l.requestTaken event).bind (·.write l.data.blockSize) else none := by
    obtain ⟨error, sent⟩ := reply
    rw [acceptedWrite, h]
    cases error <;> rfl
  rcases run_cases h with ⟨r, hr, l₀, l₁, hdata, -, hhandler, hdata', -⟩ | ⟨hdata, hnone⟩
  · obtain ⟨-, hmulti, -⟩ := hguard r hr
    have hblock := handler_block (fun hc hr' => hmulti hc (hr'.of_data hdata)) hhandler
    rw [hdata', hblock, hdata, hwrite, hr]
    split_ifs <;> rfl
  · have hwrite : l.acceptedWrite event = none := by
      rw [hwrite]
      rcases hnone with hnone | herror
      · rw [hnone]
        exact ite_self _
      · exact if_neg herror
    rw [hdata, hwrite]
    rfl

lemma step_block (hguard : l.RequestGuarded event) :
    (iso15693_3Listener.step l event).2.data.block =
      (l.acceptedWrite event).toList.foldl writeBlocks l.data.block := by
  simp only [iso15693_3Listener]
  cases h : l.run event with
  | none =>
    rw [acceptedWrite, h]
    rfl
  | some result =>
    obtain ⟨reply, l'⟩ := result
    rw [run_block hguard h]
    cases l.acceptedWrite event <;> rfl

lemma step_keepsLocked (l : Iso15693_3Listener) (event : Iso15693_3NfcEvent) :
    KeepsLocked l.data (iso15693_3Listener.step l event).2.data := by
  simp only [iso15693_3Listener]
  cases h : l.run event with
  | none => exact .refl _
  | some result => exact run_keepsLocked h

lemma answersRead (hguard : l.RequestGuarded event) : l.AnswersRead event := by
  intro frame l' h r hr blocks hblocks
  rcases run_cases h with ⟨r', hr', l₀, l₁, hdata, htx, hhandler, -, hsent⟩ | ⟨-, hnone⟩
  · obtain rfl : r = r' := Option.some.inj (hr.symm.trans hr')
    obtain ⟨-, -, hmulti⟩ := hguard r hr
    rw [← hdata] at hmulti ⊢
    have happend := handler_read hblocks hmulti hhandler
    rw [hsent frame rfl rfl, happend.txBuffer, htx]
    rfl
  · rcases hnone with hnone | herror
    · exact absurd (hr.symm.trans hnone) nofun
    · exact absurd rfl herror

end Iso15693_3Listener

/-! ### Runs -/

open Iso15693_3Listener in
/-- In a guarded run the blocks are the initial ones with the accepted writes, every read is
answered with the blocks it asks for, and what was locked at the start has its value at the
end. -/
theorem iso15693_3Listener_memory (l : Iso15693_3Listener) (events : List Iso15693_3NfcEvent)
    (hrun : iso15693_3Listener.Along RequestGuarded l events) :
    (iso15693_3Listener.final l events).data.block =
        (l.acceptedWrites events).foldl writeBlocks l.data.block ∧
      iso15693_3Listener.Along AnswersRead l events ∧
      KeepsLocked l.data (iso15693_3Listener.final l events).data := by
  refine ⟨?_, ?_, ?_⟩
  · induction events generalizing l with
    | nil => rfl
    | cons event events ih =>
      rw [Mealy.final_cons, ih _ hrun.2, acceptedWrites, List.foldl_append]
      congr 1
      exact step_block hrun.1
  · exact hrun.mono (I := fun _ => True) (fun _ _ _ _ => trivial)
      (fun _ _ _ hguard => answersRead hguard) trivial
  · exact Mealy.along_true.invariant (I := fun l' => KeepsLocked l.data l'.data)
      (fun l' event hl _ => hl.trans (step_keepsLocked l' event)) (.refl _)

/-- A blank card of four blocks of two bytes. -/
def iso15693_3Blank : Iso15693_3Listener where
  data :=
    { uid := fun _ => 0
      systemInfo :=
        { flags := 0x04, dsfid := 0, afi := 0, icRef := 0, blockCount := 4, blockSize := 2 }
      lockBits := { dsfid := false, afi := false }
      blockData := { data := fun _ => 0, count := 8 }
      blockSecurity := { data := fun _ => 0, count := 4 }
      count_blockData := rfl
      count_blockSecurity := .inr rfl }
  state := .ready
  sessionState := { selected := false, addressed := false, waitForEof := false }
  txBuffer := []

/-- A frame in a buffer that is clear behind it. -/
def iso15693_3Frame (bytes : List (BitVec 8)) : Iso15693_3NfcEvent :=
  .frame (fun i => bytes.getD i 0) bytes.length

/-- Two blocks are written from block 0 on, the second one is locked and a write to it refused,
and the last two blocks are read. -/
theorem iso15693_3Listener_memory_locked :
    let events :=
      [iso15693_3Frame [0x02, 0x24, 0, 1, 0xA0, 0xA1, 0xB0, 0xB1],
        iso15693_3Frame [0x02, 0x22, 1], iso15693_3Frame [0x02, 0x21, 1, 0xC0, 0xC1],
        iso15693_3Frame [0x02, 0x23, 2, 1]]
    (iso15693_3Listener.final iso15693_3Blank events).data.block =
        (iso15693_3Blank.acceptedWrites events).foldl writeBlocks iso15693_3Blank.data.block ∧
      iso15693_3Listener.Along Iso15693_3Listener.AnswersRead iso15693_3Blank events ∧
      Iso15693_3Listener.KeepsLocked iso15693_3Blank.data
        (iso15693_3Listener.final iso15693_3Blank events).data :=
  iso15693_3Listener_memory _ _ (by decide +kernel)

/-- A multiple write of one chunk to block 1 does not write the chunk, and a multiple read of one
block answers with two. -/
theorem iso15693_3Listener_memory_displaced :
    let write := iso15693_3Frame [0x02, 0x24, 1, 0, 0xA0, 0xA1]
    let read := iso15693_3Frame [0x02, 0x23, 0, 0]
    (iso15693_3Listener.final iso15693_3Blank [write]).data.block ≠
        (iso15693_3Blank.acceptedWrites [write]).foldl writeBlocks iso15693_3Blank.data.block ∧
      ¬ iso15693_3Listener.Along Iso15693_3Listener.AnswersRead iso15693_3Blank [read] := by
  constructor
  · intro h
    have hblock := congrFun h 1
    revert hblock
    decide +kernel
  · rintro ⟨h, -⟩
    have hrun : (iso15693_3Blank.run (iso15693_3Frame [0x02, 0x23, 0, 0])).map Prod.fst =
        some ⟨.none, some [0, 0, 0, 0, 0]⟩ := by decide +kernel
    obtain ⟨⟨_, l'⟩, hrun, rfl⟩ := Option.map_eq_some_iff.mp hrun
    have hframe := h _ l' hrun _ rfl [0] rfl
    revert hframe
    decide +kernel

end FlipperZero
