import FlipperZero.Foundation.System
import FlipperZero.Nfc.Iso14443Layer

/-!
# Block numbers of ISO 14443-4

The lowest bit of the PCB byte is the number of the next I-block, and every encoded block changes
it. The branch for R-blocks puts it back when the answer is decoded, also after an S(WTX) block,
which has the bits of an R-block. No branch puts back what an S-block has overwritten: after S(WTX)
the next number is 0, after S(DESELECT) it is 1.
-/

namespace FlipperZero

open Foundation

namespace Iso14443_4Layer

/-! ### Exchanges -/

/-- What is done with a received block: nothing, or one of the decoders is called. -/
inductive Reception where
  | nothing
  | decodeBlock (outputData blockData : BitBuffer)
  | decodeBlockPwtExt (outputData blockData : BitBuffer)

/-- The reader sends before it receives, the card receives before it sends. -/
inductive Role where
  | reader
  | card

/-- An exchange of blocks. Before an I-block its flags may be set; without them the PCB is used as
it stands. -/
inductive Exchange where
  | iBlock (role : Role) (flags : Option (Bool × Bool)) (inputData blockData : BitBuffer)
      (reception : Reception)
  | rBlock (acknowledged cidPresent : Bool) (inputData blockData outputData answer : BitBuffer)
  | sBlock (deselect cidPresent : Bool) (inputData blockData outputData answer : BitBuffer)

/-- The layer, and the PCB bytes of the I-blocks that were encoded. -/
structure Numbered where
  layer : Iso14443_4Layer
  sent : List (BitVec 8)

def nextNumber (layer : Iso14443_4Layer) : Bool := layer.pcb.getLsbD 0

/-- The layer after a reception that no check stops. -/
def receive (layer : Iso14443_4Layer) : Reception → Option Iso14443_4Layer
  | .nothing => some layer
  | .decodeBlock outputData blockData =>
    (layer.decodeBlock outputData blockData).value.map fun r => r.2.1
  | .decodeBlockPwtExt outputData blockData =>
    (layer.decodeBlockPwtExt outputData blockData).value.map fun _ => layer

def setFlags (layer : Iso14443_4Layer) : Option (Bool × Bool) → Iso14443_4Layer
  | some (chaining, cidPresent) => layer.setIBlock chaining cidPresent
  | none                        => layer

def sendIBlock (layer : Iso14443_4Layer) (flags : Option (Bool × Bool))
    (inputData blockData : BitBuffer) : Option (Iso14443_4Layer × BitVec 8) :=
  let layer := layer.setFlags flags
  -- the PCB that a deselection leaves is none of an I-block
  if layer.pcb &&& 0xC0 = 0 then
    (layer.encodeBlock inputData blockData).map fun (next, block) =>
      (next, block.data blockData.getSizeBytes)
  else none

/-- An exchange, unless a check stops it. -/
def exchange (s : Numbered) : Exchange → Option Numbered
  | .iBlock .reader flags inputData blockData reception => do
    let (layer, pcb) ← s.layer.sendIBlock flags inputData blockData
    let layer ← layer.receive reception
    return ⟨layer, s.sent ++ [pcb]⟩
  | .iBlock .card flags inputData blockData reception => do
    let layer ← s.layer.receive reception
    let (layer, pcb) ← layer.sendIBlock flags inputData blockData
    return ⟨layer, s.sent ++ [pcb]⟩
  | .rBlock acknowledged cidPresent inputData blockData outputData answer => do
    let (layer, _) ← (s.layer.setRBlock acknowledged cidPresent).encodeBlock inputData blockData
    let layer ← layer.receive (.decodeBlock outputData answer)
    return ⟨layer, s.sent⟩
  | .sBlock deselect cidPresent inputData blockData outputData answer => do
    let (layer, _) ← (s.layer.setSBlock deselect cidPresent).encodeBlock inputData blockData
    let layer ← layer.receive (.decodeBlock outputData answer)
    return ⟨layer, s.sent⟩

def exchanges : System Numbered Exchange where
  step := exchange

def noneSent : Numbered := ⟨reset, []⟩

/-! ### Calls -/

variable {layer next : Iso14443_4Layer} {inputData blockData block outputData : BitBuffer}

/-- The layer after `iso14443_4_layer_decode_block`, whatever was received. -/
def decoded (layer : Iso14443_4Layer) : Iso14443_4Layer :=
  if isRBlock layer.pcbPrev then updatePcb { layer with pcb := layer.pcb &&& 0x03 }
  else if isChainActive layer.pcbPrev then { layer with pcb := layer.pcb &&& ~~~0x10 }
  else layer

lemma decodeBlock_layer {r : Bool × Iso14443_4Layer × BitBuffer}
    (h : (layer.decodeBlock outputData blockData).value = some r) : r.2.1 = layer.decoded := by
  rw [decodeBlock] at h
  rw [decoded]
  split_ifs at h ⊢ with hR hchain hS hlong
  · rw [Reads.value_bind] at h
    cases h
    rfl
  · rw [Reads.value_bind] at h
    cases h
    rfl
  · simp only [Reads.value_bind, Option.bind_eq_some_iff, Reads.value_pure, Option.some.injEq] at h
    obtain ⟨_, _, _, _, rfl⟩ := h
    rfl
  · simp only [Reads.value_bind, Option.bind_eq_some_iff, Reads.value_pure, Option.some.injEq] at h
    obtain ⟨_, _, rfl⟩ := h
    rfl
  · simp only [Reads.value_bind, Option.bind_eq_some_iff] at h
    obtain ⟨starts, _, h⟩ := h
    split_ifs at h
    · simp only [Reads.value_bind, Option.bind_eq_some_iff, Reads.value_pure, Option.some.injEq] at h
      obtain ⟨_, _, rfl⟩ := h
      rfl
    · cases h
      rfl

lemma encodeBlock_cases (h : layer.encodeBlock inputData blockData = some (next, block)) :
    next = layer.updatePcb ∧ block.data blockData.getSizeBytes = layer.pcb := by
  obtain ⟨first, hfirst, h⟩ := Option.bind_eq_some_iff.mp h
  obtain ⟨whole, hwhole, h⟩ := Option.bind_eq_some_iff.mp h
  cases h
  obtain ⟨_, hsize, _, hdata⟩ := BitBuffer.appendByte_cases hfirst
  refine ⟨rfl, ?_⟩
  rw [BitBuffer.data_append hwhole (hsize ▸ Nat.lt_succ_self _), hdata, Function.update_self]

lemma receive_cases {reception : Reception} (hprev : ¬isRBlock layer.pcbPrev)
    (h : layer.receive reception = some next) :
    next.pcbPrev = layer.pcbPrev ∧ next.nextNumber = layer.nextNumber := by
  cases reception with
  | nothing =>
    cases h
    exact ⟨rfl, rfl⟩
  | decodeBlock outputData blockData =>
    obtain ⟨r, hr, rfl⟩ := Option.map_eq_some_iff.mp h
    rw [decodeBlock_layer hr, decoded, if_neg hprev]
    split_ifs with hchain
    · refine ⟨rfl, ?_⟩
      simp [nextNumber]
    · exact ⟨rfl, rfl⟩
  | decodeBlockPwtExt outputData blockData =>
    obtain ⟨r, _, rfl⟩ := Option.map_eq_some_iff.mp h
    exact ⟨rfl, rfl⟩

/-! ### Numbers -/

lemma nextNumber_setFlags (flags : Option (Bool × Bool)) :
    (layer.setFlags flags).nextNumber = layer.nextNumber := by
  cases flags with
  | none => rfl
  | some flags => simp [setFlags, setIBlock, nextNumber, flag]

lemma nextNumber_updatePcb : layer.updatePcb.nextNumber = !layer.nextNumber := by
  simp [updatePcb, nextNumber]

lemma not_isRBlock : ∀ pcb : BitVec 8, pcb &&& 0xC0 = 0 → ¬isRBlock pcb := by decide

lemma sendIBlock_cases {flags : Option (Bool × Bool)} {pcb : BitVec 8}
    (h : layer.sendIBlock flags inputData blockData = some (next, pcb)) :
    pcb.getLsbD 0 = layer.nextNumber ∧ next.nextNumber = (!layer.nextNumber) ∧
      ¬isRBlock next.pcbPrev := by
  rw [sendIBlock] at h
  split_ifs at h with hI
  obtain ⟨⟨after, block⟩, hencode, h⟩ := Option.map_eq_some_iff.mp h
  cases h
  obtain ⟨rfl, hpcb⟩ := encodeBlock_cases hencode
  refine ⟨?_, ?_, not_isRBlock _ hI⟩
  · rw [hpcb]
    exact nextNumber_setFlags flags
  · rw [nextNumber_updatePcb, nextNumber_setFlags]

lemma decoded_rBlock (layer : Iso14443_4Layer) (acknowledged cidPresent : Bool) :
    (layer.setRBlock acknowledged cidPresent).updatePcb.decoded =
      { pcb := layer.pcb &&& 0x03, pcbPrev := layer.pcb &&& 0x03 ^^^ 0x01 } := by
  obtain ⟨pcb, pcbPrev⟩ := layer
  have hpcb : ∀ (acknowledged cidPresent : Bool) (pcb : BitVec 8),
      (setRBlock ⟨pcb, 0⟩ acknowledged cidPresent).updatePcb.decoded =
        { pcb := pcb &&& 0x03, pcbPrev := pcb &&& 0x03 ^^^ 0x01 } := by decide +kernel
  exact hpcb acknowledged cidPresent pcb

/-- The answer to an S-block leaves 1 after a deselection, and 0 after a request for more time. -/
lemma decoded_sBlock (layer : Iso14443_4Layer) (deselect cidPresent : Bool) :
    (layer.setSBlock deselect cidPresent).updatePcb.decoded.nextNumber = deselect ∧
      ¬isRBlock (layer.setSBlock deselect cidPresent).updatePcb.decoded.pcbPrev := by
  have hpcb : ∀ deselect cidPresent : Bool,
      (reset.setSBlock deselect cidPresent).updatePcb.decoded.nextNumber = deselect ∧
        ¬isRBlock (reset.setSBlock deselect cidPresent).updatePcb.decoded.pcbPrev := by decide
  exact hpcb deselect cidPresent

lemma not_isRBlock_low : ∀ pcb : BitVec 8, ¬isRBlock (pcb &&& 0x03 ^^^ 0x01) := by decide +kernel

lemma exchange_iBlock {s t : Numbered} {role : Role} {flags : Option (Bool × Bool)}
    {reception : Reception} (hprev : ¬isRBlock s.layer.pcbPrev)
    (h : exchange s (.iBlock role flags inputData blockData reception) = some t) :
    ∃ pcb, t.sent = s.sent ++ [pcb] ∧ pcb.getLsbD 0 = s.layer.nextNumber ∧
      t.layer.nextNumber = (!s.layer.nextNumber) ∧ ¬isRBlock t.layer.pcbPrev := by
  cases role with
  | reader =>
    obtain ⟨⟨sent, pcb⟩, hsend, h⟩ := Option.bind_eq_some_iff.mp h
    obtain ⟨received, hreceive, h⟩ := Option.bind_eq_some_iff.mp h
    cases h
    obtain ⟨hpcb, hnext, hsent⟩ := sendIBlock_cases hsend
    obtain ⟨hkept, hnumber⟩ := receive_cases hsent hreceive
    refine ⟨pcb, rfl, hpcb, hnumber.trans hnext, ?_⟩
    show ¬isRBlock received.pcbPrev
    rw [hkept]
    exact hsent
  | card =>
    obtain ⟨received, hreceive, h⟩ := Option.bind_eq_some_iff.mp h
    obtain ⟨⟨sent, pcb⟩, hsend, h⟩ := Option.bind_eq_some_iff.mp h
    cases h
    obtain ⟨_, hnumber⟩ := receive_cases hprev hreceive
    obtain ⟨hpcb, hnext, hsent⟩ := sendIBlock_cases hsend
    rw [hnumber] at hpcb hnext
    exact ⟨pcb, rfl, hpcb, hnext, hsent⟩

lemma exchange_rBlock {s t : Numbered} {acknowledged cidPresent : Bool} {answer : BitBuffer}
    (h : exchange s (.rBlock acknowledged cidPresent inputData blockData outputData answer) = some t) :
    t.sent = s.sent ∧ t.layer.nextNumber = s.layer.nextNumber ∧ ¬isRBlock t.layer.pcbPrev := by
  obtain ⟨⟨sent, block⟩, hencode, h⟩ := Option.bind_eq_some_iff.mp h
  obtain ⟨received, hreceive, h⟩ := Option.bind_eq_some_iff.mp h
  cases h
  obtain ⟨r, hr, rfl⟩ := Option.map_eq_some_iff.mp hreceive
  obtain ⟨rfl, _⟩ := encodeBlock_cases hencode
  have hlayer := (decodeBlock_layer hr).trans (decoded_rBlock s.layer acknowledged cidPresent)
  refine ⟨rfl, ?_, ?_⟩
  · show r.2.1.nextNumber = _
    rw [hlayer]
    simp [nextNumber]
  · show ¬isRBlock r.2.1.pcbPrev
    rw [hlayer]
    exact not_isRBlock_low _

/-- An exchange of S-blocks leaves 1 after a deselection, and 0 after a request for more time. -/
lemma exchange_sBlock {s t : Numbered} {deselect cidPresent : Bool} {answer : BitBuffer}
    (h : exchange s (.sBlock deselect cidPresent inputData blockData outputData answer) = some t) :
    t.sent = s.sent ∧ t.layer.nextNumber = deselect ∧ ¬isRBlock t.layer.pcbPrev := by
  obtain ⟨⟨sent, block⟩, hencode, h⟩ := Option.bind_eq_some_iff.mp h
  obtain ⟨received, hreceive, h⟩ := Option.bind_eq_some_iff.mp h
  cases h
  obtain ⟨r, hr, rfl⟩ := Option.map_eq_some_iff.mp hreceive
  obtain ⟨rfl, _⟩ := encodeBlock_cases hencode
  refine ⟨rfl, ?_⟩
  show r.2.1.nextNumber = deselect ∧ ¬isRBlock r.2.1.pcbPrev
  rw [decodeBlock_layer hr]
  exact decoded_sBlock s.layer deselect cidPresent

/-! ### Runs of exchanges -/

/-- The exchange keeps the next number: a deselection when it is 1, a request for more time when
it is 0. -/
def KeepsNumber (s : Numbered) : Exchange → Prop
  | .sBlock deselect _ _ _ _ _ => s.layer.nextNumber = deselect
  | _                          => True

instance (s : Numbered) : ∀ e, Decidable (KeepsNumber s e)
  | .sBlock _ _ _ _ _ _ => inferInstanceAs (Decidable (_ = _))
  | .iBlock _ _ _ _ _   => .isTrue trivial
  | .rBlock _ _ _ _ _ _ => .isTrue trivial

def Exchange.InBetween : Exchange → Prop
  | .iBlock _ _ _ _ _ => False
  | _                 => True

/-- The numbers of the I-blocks are 0, 1, 0, 1 and so on. -/
def Alternates (sent : List (BitVec 8)) : Prop :=
  ∀ k (hk : k < sent.length), (sent[k]).getLsbD 0 = decide (k % 2 = 1)

/-- The next number continues the ones sent. -/
structure Counted (s : Numbered) : Prop where
  sent : Alternates s.sent
  next : s.layer.nextNumber = decide (s.sent.length % 2 = 1)
  prev : ¬isRBlock s.layer.pcbPrev

lemma counted_noneSent : Counted noneSent where
  sent := fun k hk => absurd hk (Nat.not_lt_zero k)
  next := rfl
  prev := by decide

lemma Alternates.append {sent : List (BitVec 8)} {pcb : BitVec 8} (h : Alternates sent)
    (hpcb : pcb.getLsbD 0 = decide (sent.length % 2 = 1)) : Alternates (sent ++ [pcb]) := by
  intro k hk
  rw [List.length_append, List.length_singleton] at hk
  rcases Nat.lt_succ_iff_lt_or_eq.mp hk with hlt | rfl
  · rw [List.getElem_append_left hlt]
    exact h k hlt
  · rw [List.getElem_concat_length rfl]
    exact hpcb

lemma Counted.exchange {s t : Numbered} {e : Exchange} (hs : Counted s) (he : KeepsNumber s e)
    (h : exchanges.step s e = some t) : Counted t := by
  obtain ⟨hsent, hnext, hprev⟩ := hs
  cases e with
  | iBlock role flags inputData blockData reception =>
    obtain ⟨pcb, hpcbs, hpcb, hnumber, hprev⟩ := exchange_iBlock hprev h
    refine ⟨?_, ?_, hprev⟩
    · rw [hpcbs]
      exact hsent.append (hpcb.trans hnext)
    · rw [hnumber, hnext, hpcbs, List.length_append, List.length_singleton, ← decide_not,
        decide_eq_decide]
      omega
  | rBlock =>
    obtain ⟨hpcbs, hnumber, hprev⟩ := exchange_rBlock h
    refine ⟨?_, ?_, hprev⟩
    · rw [hpcbs]
      exact hsent
    · rw [hnumber, hnext, hpcbs]
  | sBlock =>
    obtain ⟨hpcbs, hnumber, hprev⟩ := exchange_sBlock h
    refine ⟨?_, ?_, hprev⟩
    · rw [hpcbs]
      exact hsent
    · rw [hnumber, ← he, hnext, hpcbs]

/-- In a run whose S-blocks are sent at the number that they leave, the numbers of the I-blocks
alternate, and exactly the exchanges of this kind leave the next number. -/
theorem numbers_alternate {s : Numbered} (hrun : exchanges.Reaches KeepsNumber noneSent s) :
    Alternates s.sent ∧ ∀ e t, e.InBetween → exchanges.step s e = some t →
      (t.layer.nextNumber = s.layer.nextNumber ↔ KeepsNumber s e) := by
  have hcounted := hrun.invariant counted_noneSent fun _ _ _ hs he h => hs.exchange he h
  refine ⟨hcounted.sent, fun e t he h => ?_⟩
  cases e with
  | iBlock => exact he.elim
  | rBlock => exact iff_of_true (exchange_rBlock h).2.1 trivial
  | sBlock =>
    rw [(exchange_sBlock h).2.1]
    exact eq_comm

/-- An I-block without data, sent by the reader. -/
def emptyIBlock : Exchange := .iBlock .reader none (.alloc 1) (.alloc 1) .nothing

/-- Two I-blocks with an R-block between them, which is acknowledged. -/
theorem numbers_alternate_rBlock :
    ∃ s, exchanges.Reaches KeepsNumber noneSent s ∧ s.sent = [0x02, 0x03] ∧ Alternates s.sent := by
  have hreplay : ((exchanges.replay KeepsNumber noneSent [emptyIBlock,
      .rBlock true false (.alloc 1) (.alloc 1) (.alloc 1) (.ofBytes [0xA3]), emptyIBlock]).map
        fun s => s.sent) = some [0x02, 0x03] := by decide
  obtain ⟨s, hreplay, hsent⟩ := Option.map_eq_some_iff.mp hreplay
  have hrun := System.Reaches.of_replay .refl hreplay
  exact ⟨s, hrun, hsent, (numbers_alternate hrun).1⟩

/-- With a request for more time between them, both I-blocks have the number 0. -/
theorem not_alternates_sBlock :
    ¬∀ s, exchanges.Reaches (fun _ _ => True) noneSent s → Alternates s.sent := by
  intro h
  have hreplay : ((exchanges.replay (fun _ _ => True) noneSent [emptyIBlock,
      .sBlock false false (.alloc 1) (.alloc 1) (.alloc 1) (.ofBytes [0xF2, 0x01]),
        emptyIBlock]).map fun s => s.sent) = some [0x02, 0x02] := by decide
  obtain ⟨s, hreplay, hsent⟩ := Option.map_eq_some_iff.mp hreplay
  have halternates := h s (System.Reaches.of_replay .refl hreplay)
  rw [hsent] at halternates
  exact absurd (halternates 1 (by decide)) (by decide)

end Iso14443_4Layer

end FlipperZero
