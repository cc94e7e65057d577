import FlipperZero.Nfc.Iso15693Session
import Mathlib.Data.Fintype.Basic
import Mathlib.Tactic.FinCases

/-!
# The ISO15693-3 poller and the answers of the listener

The parsers of `iso15693_3_i.c` and the requests of `iso15693_3_poller_i.c`. The listener and the
poller are two halves of one format: what the listener answers to the requests of the poller is
parsed to the data of the card. A field of the system information that the card does not send is
left as it was.
-/

namespace FlipperZero

open Foundation

/-! ### The parsers -/

/-- `Iso15693_3Error`, as far as the parsers give it. -/
inductive Iso15693_3ParseError where
  | bufferEmpty
  | format
  | notSupported
  | unexpectedResponse
  | internal
  | custom
  | unknown
  deriving DecidableEq, Repr

/-- `iso15693_3_error_response_parse`: the error in a frame, if there is one. -/
def iso15693_3ErrorResponseParse : List (BitVec 8) → Option Iso15693_3ParseError
  | []            => some .bufferEmpty
  | flags :: rest =>
    if flags.getLsbD 0 = false then none
    else
      match rest with
      | []         => some .unexpectedResponse
      | error :: _ =>
        if 0xA0 ≤ error.toNat ∧ error.toNat ≤ 0xDF then some .custom
        else if error = 0x01 ∨ error = 0x03 then some .notSupported
        else if error = 0x02 then some .format
        else if 0x10 ≤ error.toNat ∧ error.toNat ≤ 0x14 then some .internal
        else some .unknown

/-- `iso15693_3_inventory_response_parse`: the UID, whose bytes come in reverse. -/
def iso15693_3InventoryResponseParse (buf : List (BitVec 8)) :
    Except Iso15693_3ParseError (Fin 8 → BitVec 8) :=
  match iso15693_3ErrorResponseParse buf with
  | some error => .error error
  | none       =>
    if buf.length ≠ 10 then .error .unexpectedResponse
    else .ok fun i => buf.getD (2 + (8 - i - 1)) 0

/-- A field of the system information if its flag is set: `*extra++`. -/
def iso15693_3TakeField (flag : Bool)
    (set : Iso15693_3SystemInfo → BitVec 8 → Iso15693_3SystemInfo)
    (s : Iso15693_3SystemInfo × List (BitVec 8)) : Iso15693_3SystemInfo × List (BitVec 8) :=
  if flag then (set s.1 (s.2.headD 0), s.2.tail) else s

/-- `iso15693_3_system_info_response_parse`, into a record. -/
def iso15693_3SystemInfoResponseParse (data : Iso15693_3SystemInfo) (buf : List (BitVec 8)) :
    Except Iso15693_3ParseError Iso15693_3SystemInfo :=
  match iso15693_3ErrorResponseParse buf with
  | some error => .error error
  | none       =>
    if buf.length < 10 then .error .unexpectedResponse
    else
      let flags := buf.getD 1 0
      let extraSize := (if flags.getLsbD 0 then 1 else 0) + (if flags.getLsbD 1 then 1 else 0) +
        (if flags.getLsbD 2 then 2 else 0) + if flags.getLsbD 3 then 1 else 0
      if extraSize ≠ buf.length - 10 then .error .unexpectedResponse
      else
        let s := ({ data with flags := flags }, buf.drop 10)
        let s := iso15693_3TakeField (flags.getLsbD 0) (fun d b => { d with dsfid := b }) s
        let s := iso15693_3TakeField (flags.getLsbD 1) (fun d b => { d with afi := b }) s
        -- one is added to both to get the actual values
        let s := iso15693_3TakeField (flags.getLsbD 2)
          (fun d b => { d with blockCount := b.setWidth 16 + 1 }) s
        let s := iso15693_3TakeField (flags.getLsbD 2)
          (fun d b => { d with blockSize := (b &&& 0x1F) + 1 }) s
        let s := iso15693_3TakeField (flags.getLsbD 3) (fun d b => { d with icRef := b }) s
        .ok s.1

/-- `iso15693_3_read_block_response_parse` and `iso15693_3_get_block_security_response_parse`: the
bytes behind the flags, which have to be as many as asked for. -/
def iso15693_3BytesResponseParse (size : Nat) (buf : List (BitVec 8)) :
    Except Iso15693_3ParseError (List (BitVec 8)) :=
  match iso15693_3ErrorResponseParse buf with
  | some error => .error error
  | none       =>
    if buf.length ≤ 1 ∨ buf.length - 1 ≠ size then .error .unexpectedResponse
    else .ok (buf.drop 1)

def iso15693_3ReadBlockResponseParse (blockSize : BitVec 8) :=
  iso15693_3BytesResponseParse blockSize.toNat

def iso15693_3GetBlockSecurityResponseParse (blockCount : BitVec 16) :=
  iso15693_3BytesResponseParse blockCount.toNat

/-! ### The requests of the poller -/

/-- The request of `iso15693_3_poller_inventory`: one slot, no mask. -/
def iso15693_3PollerInventory : Iso15693_3NfcEvent := iso15693_3Frame [0x26, 0x01, 0x00]

/-- The request of `iso15693_3_poller_get_system_info`. -/
def iso15693_3PollerGetSystemInfo : Iso15693_3NfcEvent := iso15693_3Frame [0x02, 0x2B]

/-- The request of `iso15693_3_poller_read_block`. -/
def iso15693_3PollerReadBlock (blockNumber : BitVec 8) : Iso15693_3NfcEvent :=
  iso15693_3Frame [0x02, 0x20, blockNumber]

/-- A query of `iso15693_3_poller_get_blocks_security`: the block count is sent minus one. -/
def iso15693_3PollerGetBlocksSecurity (startBlockNum blockCount : BitVec 8) :
    Iso15693_3NfcEvent :=
  iso15693_3Frame [0x02, 0x2C, startBlockNum, blockCount - 1]

/-! ### The answers of the listener -/

namespace Iso15693_3Listener

variable {l : Iso15693_3Listener} {bytes : List (BitVec 8)}

lemma append_eq (h : l.txBuffer.length + bytes.length ≤ 256) :
    l.append bytes = some { l with txBuffer := l.txBuffer ++ bytes } := if_pos h

/-- The listener answers a request at once. -/
def Answers (l : Iso15693_3Listener) (event : Iso15693_3NfcEvent) (frame : List (BitVec 8)) :
    Prop :=
  ∃ l', l.run event = some (⟨.none, some frame⟩, l')

/-- A listener that is not quiet and has no answer waiting. -/
structure Listens (l : Iso15693_3Listener) : Prop where
  state : l.state ≠ .quiet
  waitForEof : l.sessionState.waitForEof = false

lemma sendFrame_answer (hwait : l.sessionState.waitForEof = false)
    (hlen : l.txBuffer.length + 2 ≤ 256) :
    l.answer .none = some (⟨.none, some l.txBuffer⟩, l) := by
  rw [answer, if_neg (by decide), if_pos rfl, if_neg (by rw [hwait]; decide), sendFrame,
    if_pos hlen]
  rfl

/-- The listener that a handler gets for a request that is neither addressed nor selected. -/
def takingPlain (l : Iso15693_3Listener) : Iso15693_3Listener :=
  { l with
    sessionState := { l.sessionState with selected := false, addressed := false }
    txBuffer := [0] }

lemma answers_of_handler (l₁ : Iso15693_3Listener) {flags command : BitVec 8}
    {rest : List (BitVec 8)} (hl : l.Listens) (hflags : flags = 0x02 ∨ flags = 0x26)
    (hcommand : command ≠ 0 ∧ command.toNat < 0xA0)
    (hhandler : l.takingPlain.handler (fun i => rest.getD i 0) rest.length flags command =
      some (some (.none, l₁)))
    (hwait : l₁.sessionState.waitForEof = false) (hlen : l₁.txBuffer.length + 2 ≤ 256) :
    l.Answers (iso15693_3Frame (flags :: command :: rest)) l₁.txBuffer := by
  have hmode : { l with txBuffer := [] }.selectMode flags =
      (.none, { l.takingPlain with txBuffer := [] }) := by
    unfold selectMode
    rcases hflags with rfl | rfl
    · rw [if_pos (by decide)]
      dsimp only
      rw [if_neg (by decide), if_neg hl.state]
      split_ifs
      · rename_i h
        cases h
      · rfl
      · rfl
    · rw [if_neg (by decide), if_neg hl.state]
      rfl
  have hdata : (fun i => (flags :: command :: rest).getD (2 + i) 0) = fun i => rest.getD i 0 := by
    funext i
    rw [Nat.add_comm]
    rfl
  have hstandard : { l.takingPlain with txBuffer := [] }.handleStandardRequest
      (fun i => rest.getD i 0) rest.length flags command = some (⟨.none, some l₁.txBuffer⟩, l₁) := by
    rw [handleStandardRequest, if_neg hcommand.1]
    dsimp only
    rw [show ({ l.takingPlain with txBuffer := [0] } : Iso15693_3Listener) = l.takingPlain from rfl,
      hhandler]
    exact sendFrame_answer hwait hlen
  have hrequest : { l with txBuffer := [] }.processRequest
      (fun i => (flags :: command :: rest).getD i 0) (rest.length + 2) =
        some (⟨.none, some l₁.txBuffer⟩, l₁) := by
    rw [processRequest, if_neg (by omega)]
    simp only [List.getD_cons_zero, List.getD_cons_succ, hmode, hdata]
    have haddressed : ¬ l.takingPlain.sessionState.addressed = true := Bool.false_ne_true
    rw [if_neg (by decide), if_neg (by omega), if_neg haddressed]
    exact hstandard
  exact ⟨l₁, by rw [iso15693_3Frame, run]; exact (congrArg (Option.map _) hrequest).trans rfl⟩

def uidBytes (l : Iso15693_3Listener) : List (BitVec 8) :=
  (List.finRange 8).reverse.map l.data.uid

lemma inventory_answers (hl : l.Listens) :
    l.Answers iso15693_3PollerInventory (0 :: l.data.systemInfo.dsfid :: l.uidBytes) :=
  answers_of_handler { l.takingPlain with
    txBuffer := 0 :: l.data.systemInfo.dsfid :: l.uidBytes } hl (.inr rfl) (by decide) rfl
    hl.waitForEof (by simp [uidBytes])

def systemInfoBytes (l : Iso15693_3Listener) : List (BitVec 8) :=
  let info := l.data.systemInfo
  (if info.flags.getLsbD 0 then [info.dsfid] else []) ++
    (if info.flags.getLsbD 1 then [info.afi] else []) ++
    (if info.flags.getLsbD 2 then [(info.blockCount - 1).setWidth 8, info.blockSize - 1] else []) ++
    if info.flags.getLsbD 3 then [info.icRef] else []

lemma length_systemInfoBytes :
    l.systemInfoBytes.length =
      (if l.data.systemInfo.flags.getLsbD 0 then 1 else 0) +
        (if l.data.systemInfo.flags.getLsbD 1 then 1 else 0) +
        (if l.data.systemInfo.flags.getLsbD 2 then 2 else 0) +
        if l.data.systemInfo.flags.getLsbD 3 then 1 else 0 := by
  unfold systemInfoBytes
  dsimp only
  rw [List.length_append, List.length_append, List.length_append]
  congr 1
  · congr 1
    · congr 1 <;> split_ifs <;> rfl
    · split_ifs <;> rfl
  · split_ifs <;> rfl

lemma length_systemInfoBytes_le : l.systemInfoBytes.length ≤ 5 := by
  rw [length_systemInfoBytes]
  split_ifs <;> decide

lemma getSystemInfo_answers (hl : l.Listens) :
    l.Answers iso15693_3PollerGetSystemInfo
      (0 :: l.data.systemInfo.flags :: (l.uidBytes ++ l.systemInfoBytes)) := by
  have huid : l.uidBytes.length = 8 := by simp [uidBytes]
  have hinfo := length_systemInfoBytes_le (l := l)
  refine answers_of_handler { l.takingPlain with
    txBuffer := 0 :: l.data.systemInfo.flags :: (l.uidBytes ++ l.systemInfoBytes) } hl (.inl rfl)
    (by decide) ?_ hl.waitForEof (by simp [huid]; omega)
  refine congrArg some ?_
  unfold getSystemInfoHandler systemInfoBytes takingPlain
  dsimp only
  -- the answer to every combination of the flags
  generalize l.data.systemInfo.flags.getLsbD 0 = dsfid
  generalize l.data.systemInfo.flags.getLsbD 1 = afi
  generalize l.data.systemInfo.flags.getLsbD 2 = memory
  generalize l.data.systemInfo.flags.getLsbD 3 = icRef
  cases dsfid <;> cases afi <;> cases memory <;> cases icRef <;> rfl

lemma readBlock_answers (hl : l.Listens) (hpos : 0 < l.data.blockSize)
    (hsize : l.data.blockSize ≤ 32) {n : BitVec 8} (hn : n.toNat < l.data.blockCount) :
    l.Answers (iso15693_3PollerReadBlock n) (0 :: l.data.block n.toNat) := by
  have hlen : (l.data.block n.toNat).length = l.data.blockSize := by
    simp [Iso15693_3Data.block]
  refine answers_of_handler { l.takingPlain with
    txBuffer := 0 :: l.data.block n.toNat } hl (.inl rfl) (by decide) ?_ hl.waitForEof
    (by simp [hlen]; omega)
  refine congrArg some ?_
  have hn' : ¬ l.takingPlain.data.blockCount ≤ ([n].getD 0 0).toNat := Nat.not_le.mpr hn
  rw [readBlockHandler, if_neg (by simp)]
  dsimp only
  rw [if_neg hn']
  have hindex : n.toNat * l.takingPlain.data.blockSize < l.takingPlain.data.blockData.count := by
    rw [l.takingPlain.data.count_blockData]
    exact Nat.mul_lt_mul_of_pos_right hn hpos
  have hblock : l.takingPlain.appendBlockAnswer 0x02 n.toNat =
      some { l.takingPlain with txBuffer := 0 :: l.data.block n.toNat } := by
    rw [appendBlockAnswer, if_neg (by decide), Option.bind_some, appendBlock,
      Nat.mod_eq_of_lt n.isLt, SimpleArray.cget, if_pos hindex, Option.bind_some]
    exact append_eq (by simp [takingPlain]; omega)
  rw [List.getD_cons_zero, hblock]
  rfl

def lockStatus (l : Iso15693_3Listener) (blocks : List Nat) : List (BitVec 8) :=
  blocks.map fun i => if l.data.Locked i then 1 else 0

lemma isBlockLocked_eq {i : Nat} (hi : i < l.data.blockCount) (hi' : i < 256) :
    l.data.isBlockLocked i = some (decide (l.data.Locked i)) := by
  unfold Iso15693_3Data.isBlockLocked
  dsimp only
  rw [Nat.mod_eq_of_lt hi', if_pos hi]
  rcases l.data.count_blockSecurity with hcount | hcount
  · have hnot : ¬ l.data.Locked i := fun h => by
      have hlt := h.1
      rw [hcount] at hlt
      exact Nat.not_lt_zero i hlt
    rw [if_neg (not_not.mpr hcount), decide_eq_false hnot]
  · have hlt : i < l.data.blockSecurity.count := hcount ▸ hi
    have hiff : l.data.Locked i ↔ l.data.blockSecurity.data i ≠ 0 := and_iff_right hlt
    rw [if_pos (Nat.ne_zero_of_lt hlt)]
    congr 1
    rw [Bool.eq_iff_iff, bne_iff_ne, decide_eq_true_eq, hiff]

lemma appendBlocksLocked_eq {blocks : List Nat} (hcount : l.data.blockCount ≤ 256) :
    ∀ {l' : Iso15693_3Listener}, l'.data = l.data → (∀ i ∈ blocks, i < l.data.blockCount) →
      l'.txBuffer.length + blocks.length ≤ 256 →
      appendBlocksLocked blocks l' =
        some { l' with txBuffer := l'.txBuffer ++ l.lockStatus blocks } := by
  induction blocks with
  | nil =>
    intro l' _ _ _
    rw [lockStatus, List.map_nil, List.append_nil]
    rfl
  | cons i is ih =>
    intro l' hdata his hlen
    have hi := his i List.mem_cons_self
    rw [List.length_cons] at hlen
    have hlocked : l'.data.isBlockLocked i = some (decide (l.data.Locked i)) := by
      rw [hdata]
      exact isBlockLocked_eq hi (Nat.lt_of_lt_of_le hi hcount)
    have hbyte : (if decide (l.data.Locked i) = true then (1 : BitVec 8) else 0) =
        if l.data.Locked i then 1 else 0 := by
      split_ifs <;> simp_all
    rw [appendBlocksLocked, hlocked]
    simp only [Option.bind_eq_bind, Option.bind_some]
    rw [append_eq (by simp; omega), Option.bind_some,
      ih (by exact hdata) (fun j hj => his j (List.mem_cons_of_mem i hj)) (by simp; omega)]
    simp [lockStatus]

lemma getBlocksSecurity_answers (hl : l.Listens) (hcount : l.data.blockCount ≤ 256)
    {start count : BitVec 8} (hpos : 0 < count.toNat) (hmax : count.toNat ≤ 253)
    (hend : start.toNat + count.toNat ≤ l.data.blockCount) :
    l.Answers (iso15693_3PollerGetBlocksSecurity start count)
      (0 :: l.lockStatus (List.range' start.toNat count.toNat)) := by
  have hlen : (l.lockStatus (List.range' start.toNat count.toNat)).length = count.toNat := by
    simp [lockStatus]
  have hone : (count - 1).toNat = count.toNat - 1 := by
    rw [BitVec.toNat_sub_of_le (by rw [BitVec.le_def]; exact hpos)]
    rfl
  refine answers_of_handler { l.takingPlain with
    txBuffer := 0 :: l.lockStatus (List.range' start.toNat count.toNat) } hl (.inl rfl)
    (by decide) ?_ hl.waitForEof (by simp [hlen]; omega)
  refine congrArg some ?_
  have hlast : ¬ l.takingPlain.data.blockCount ≤ start.toNat + (count - 1).toNat := by
    rw [hone]
    exact Nat.not_le.mpr (by show _ < l.data.blockCount; omega)
  have hsum : (count - 1).toNat + 1 = count.toNat := by omega
  rw [getMultiBlocksSecurityHandler, if_neg (by simp)]
  simp only [List.getD_cons_zero, List.getD_cons_succ]
  have happend := appendBlocksLocked_eq hcount (rfl : l.takingPlain.data = l.data)
    (fun i hi => Nat.lt_of_lt_of_le (List.mem_range'_1.mp hi).2 hend)
    (by simp [takingPlain]; omega)
  rw [if_neg hlast, hsum, happend]
  rfl

/-! ### What the parsers make of the answers -/

lemma errorResponseParse_zero (rest : List (BitVec 8)) :
    iso15693_3ErrorResponseParse (0 :: rest) = none := rfl

lemma getD_uidBytes (l : Iso15693_3Listener) (i : Fin 8) (a b : BitVec 8)
    (tail : List (BitVec 8)) :
    (a :: b :: (l.uidBytes ++ tail)).getD (2 + (8 - i - 1)) 0 = l.data.uid i := by
  fin_cases i <;> rfl

lemma parse_inventory (l : Iso15693_3Listener) (dsfid : BitVec 8) :
    iso15693_3InventoryResponseParse (0 :: dsfid :: l.uidBytes) = .ok l.data.uid := by
  have hlen : ¬ (0 :: dsfid :: l.uidBytes).length ≠ 10 := by simp [uidBytes]
  rw [iso15693_3InventoryResponseParse, errorResponseParse_zero]
  dsimp only
  rw [if_neg hlen]
  refine congrArg Except.ok (funext fun i => ?_)
  rw [← getD_uidBytes l i 0 dsfid [], List.append_nil]

/-- The fields that are sent, over those of a record. -/
def sentInfo (l : Iso15693_3Listener) (info : Iso15693_3SystemInfo) : Iso15693_3SystemInfo :=
  let card := l.data.systemInfo
  { flags := card.flags
    dsfid := if card.flags.getLsbD 0 then card.dsfid else info.dsfid
    afi := if card.flags.getLsbD 1 then card.afi else info.afi
    icRef := if card.flags.getLsbD 3 then card.icRef else info.icRef
    blockCount := if card.flags.getLsbD 2 then card.blockCount else info.blockCount
    blockSize := if card.flags.getLsbD 2 then card.blockSize else info.blockSize }

/-- The count comes back although only its low byte is sent, and the size although it is masked. -/
lemma sizes_of_sent {blockCount : BitVec 16} {blockSize : BitVec 8}
    (hcount : 0 < blockCount.toNat ∧ blockCount.toNat ≤ 256)
    (hsize : 0 < blockSize.toNat ∧ blockSize.toNat ≤ 32) :
    ((blockCount - 1).setWidth 8).setWidth 16 + 1 = blockCount ∧
      ((blockSize - 1) &&& 0x1F) + 1 = blockSize := by
  constructor
  · apply BitVec.eq_of_toNat_eq
    simp only [BitVec.toNat_add, BitVec.toNat_setWidth, BitVec.toNat_sub]
    simp
    omega
  · apply BitVec.eq_of_toNat_eq
    have hmask : ((blockSize - 1) &&& 0x1F).toNat = (blockSize - 1).toNat % 32 := by
      rw [BitVec.toNat_and]
      exact Nat.and_two_pow_sub_one_eq_mod _ 5
    rw [BitVec.toNat_add, hmask, BitVec.toNat_sub]
    simp
    omega

lemma parse_systemInfo (l : Iso15693_3Listener) (info : Iso15693_3SystemInfo)
    (hcount : 0 < l.data.blockCount ∧ l.data.blockCount ≤ 256)
    (hsize : 0 < l.data.blockSize ∧ l.data.blockSize ≤ 32) :
    iso15693_3SystemInfoResponseParse info
      (0 :: l.data.systemInfo.flags :: (l.uidBytes ++ l.systemInfoBytes)) = .ok (l.sentInfo info) := by
  have huid : l.uidBytes.length = 8 := by simp [uidBytes]
  have hlen : (0 :: l.data.systemInfo.flags :: (l.uidBytes ++ l.systemInfoBytes)).length =
      10 + l.systemInfoBytes.length := by
    simp [huid]
    omega
  have hdrop : (0 :: l.data.systemInfo.flags :: (l.uidBytes ++ l.systemInfoBytes)).drop 10 =
      l.systemInfoBytes := List.drop_left' huid
  obtain ⟨hcount, hsize⟩ := sizes_of_sent hcount hsize
  rw [iso15693_3SystemInfoResponseParse, errorResponseParse_zero]
  dsimp only
  rw [hlen, if_neg (by omega), Nat.add_sub_cancel_left, length_systemInfoBytes, hdrop]
  simp only [List.getD_cons_succ, List.getD_cons_zero]
  rw [if_neg (not_not.mpr rfl)]
  refine congrArg Except.ok ?_
  unfold systemInfoBytes sentInfo
  dsimp only
  generalize l.data.systemInfo.flags.getLsbD 0 = dsfid
  generalize l.data.systemInfo.flags.getLsbD 1 = afi
  generalize l.data.systemInfo.flags.getLsbD 2 = memory
  generalize l.data.systemInfo.flags.getLsbD 3 = icRef
  cases dsfid <;> cases afi <;> cases memory <;> cases icRef <;>
    simp only [iso15693_3TakeField, Bool.false_eq_true, if_false, if_true, List.nil_append,
      List.cons_append, List.append_nil, List.headD_cons, List.tail_cons, hcount, hsize]

lemma parse_bytes (bytes : List (BitVec 8)) (hpos : 0 < bytes.length) :
    iso15693_3BytesResponseParse bytes.length (0 :: bytes) = .ok bytes := by
  rw [iso15693_3BytesResponseParse, errorResponseParse_zero]
  dsimp only
  rw [if_neg (by simp; exact List.ne_nil_of_length_pos hpos)]
  rfl

end Iso15693_3Listener

/-- What the poller reads from the listener is the card: the UID, the fields of the system information
whose flags are set, the blocks, and the lock status of up to 253 blocks. -/
theorem iso15693_3Poller_reads (l : Iso15693_3Listener) (hl : l.Listens)
    (hcount : 0 < l.data.blockCount ∧ l.data.blockCount ≤ 256)
    (hsize : 0 < l.data.blockSize ∧ l.data.blockSize ≤ 32) :
    (∃ frame, l.Answers iso15693_3PollerInventory frame ∧
      iso15693_3InventoryResponseParse frame = .ok l.data.uid) ∧
    (∀ info, ∃ frame, l.Answers iso15693_3PollerGetSystemInfo frame ∧
      iso15693_3SystemInfoResponseParse info frame = .ok (l.sentInfo info)) ∧
    (∀ n : BitVec 8, n.toNat < l.data.blockCount →
      ∃ frame, l.Answers (iso15693_3PollerReadBlock n) frame ∧
        iso15693_3ReadBlockResponseParse l.data.systemInfo.blockSize frame =
          .ok (l.data.block n.toNat)) ∧
    ∀ start count : BitVec 8, 0 < count.toNat → count.toNat ≤ 253 →
      start.toNat + count.toNat ≤ l.data.blockCount →
        ∃ frame, l.Answers (iso15693_3PollerGetBlocksSecurity start count) frame ∧
          iso15693_3GetBlockSecurityResponseParse (count.setWidth 16) frame =
            .ok (l.lockStatus (List.range' start.toNat count.toNat)) := by
  refine ⟨⟨_, l.inventory_answers hl, l.parse_inventory _⟩,
    fun info => ⟨_, l.getSystemInfo_answers hl, l.parse_systemInfo info hcount hsize⟩,
    fun n hn => ⟨_, l.readBlock_answers hl hsize.1 hsize.2 hn, ?_⟩,
    fun start count hpos hmax hend =>
      ⟨_, l.getBlocksSecurity_answers hl hcount.2 hpos hmax hend, ?_⟩⟩
  · have hlen : (l.data.block n.toNat).length = l.data.systemInfo.blockSize.toNat := by
      simp [Iso15693_3Data.block, Iso15693_3Data.blockSize]
    rw [iso15693_3ReadBlockResponseParse, ← hlen]
    exact Iso15693_3Listener.parse_bytes _ (hlen ▸ hsize.1)
  · have hlen : (l.lockStatus (List.range' start.toNat count.toNat)).length =
        (count.setWidth 16).toNat := by
      simp [Iso15693_3Listener.lockStatus]
      omega
    rw [iso15693_3GetBlockSecurityResponseParse, ← hlen]
    exact Iso15693_3Listener.parse_bytes _ (by simpa [Iso15693_3Listener.lockStatus] using hpos)

lemma count_fourBlocks : 8 = (4 : BitVec 16).toNat * (2 : BitVec 8).toNat := rfl

/-- A card of four blocks with all fields, of which the blocks 1 and 3 are locked. -/
def iso15693_3Filled : Iso15693_3Listener :=
  { iso15693_3Blank with
    data :=
      { uid := fun i => BitVec.ofNat 8 (0xE0 + i)
        systemInfo :=
          { flags := 0x0F, dsfid := 0x55, afi := 0x11, icRef := 0x22, blockCount := 4,
            blockSize := 2 }
        lockBits := { dsfid := false, afi := false }
        blockData := { data := fun i => BitVec.ofNat 8 (0xA0 + i), count := 8 }
        blockSecurity := { data := fun i => if i = 1 ∨ i = 3 then 1 else 0, count := 4 }
        count_blockData := count_fourBlocks
        count_blockSecurity := .inr rfl } }

/-- The poller reads that card: its system information, block 3, and the lock status of all blocks. -/
theorem iso15693_3Poller_reads_filled :
    (∃ frame, iso15693_3Filled.Answers iso15693_3PollerGetSystemInfo frame ∧
      iso15693_3SystemInfoResponseParse
          { flags := 0, dsfid := 0, afi := 0, icRef := 0, blockCount := 0, blockSize := 0 } frame =
        .ok iso15693_3Filled.data.systemInfo) ∧
    (∃ frame, iso15693_3Filled.Answers (iso15693_3PollerReadBlock 3) frame ∧
      iso15693_3ReadBlockResponseParse 2 frame = .ok [0xA6, 0xA7]) ∧
    ∃ frame, iso15693_3Filled.Answers (iso15693_3PollerGetBlocksSecurity 0 4) frame ∧
      iso15693_3GetBlockSecurityResponseParse 4 frame = .ok [0, 1, 0, 1] := by
  obtain ⟨-, hinfo, hblock, hsecurity⟩ :=
    iso15693_3Poller_reads iso15693_3Filled ⟨by decide, rfl⟩ (by decide) (by decide)
  exact ⟨hinfo _, hblock 3 (by decide), hsecurity 0 4 (by decide) (by decide) (by decide)⟩

/-- A card that has a DSFID and does not send it. -/
def iso15693_3Reserved : Iso15693_3Listener :=
  { iso15693_3Blank with
    data :=
      { uid := fun _ => 0
        systemInfo :=
          { flags := 0x04, dsfid := 0x55, afi := 0, icRef := 0, blockCount := 4, blockSize := 2 }
        lockBits := { dsfid := false, afi := false }
        blockData := { data := fun _ => 0, count := 8 }
        blockSecurity := { data := fun _ => 0, count := 4 }
        count_blockData := count_fourBlocks
        count_blockSecurity := .inr rfl } }

/-- The DSFID of a card that does not send it is not read. -/
theorem iso15693_3Poller_dsfid_not_read :
    ¬ ∃ frame info, iso15693_3Reserved.Answers iso15693_3PollerGetSystemInfo frame ∧
      iso15693_3SystemInfoResponseParse
          { flags := 0, dsfid := 0, afi := 0, icRef := 0, blockCount := 0, blockSize := 0 } frame =
        .ok info ∧
      info.dsfid = iso15693_3Reserved.data.systemInfo.dsfid := by
  rintro ⟨frame, info, ⟨l', hrun⟩, hparse, hdsfid⟩
  have hsent := congrArg (Option.map fun result => result.1.sent) hrun
  change _ = some (some frame) at hsent
  have hframe : (iso15693_3Reserved.run iso15693_3PollerGetSystemInfo).map
      (fun result => result.1.sent) = some (some [0, 4, 0, 0, 0, 0, 0, 0, 0, 0, 3, 1]) := by
    decide +kernel
  obtain rfl : [0, 4, 0, 0, 0, 0, 0, 0, 0, 0, 3, 1] = frame :=
    Option.some.inj (Option.some.inj (hframe.symm.trans hsent))
  cases hparse
  revert hdsfid
  decide

end FlipperZero
