import FlipperZero.Nfc.Iso14443Layer

/-!
# What the decoders read of a received block

The block that was sent last decides which bytes of the answer are read. An answer to an R-block
or to a chained I-block is read without a look at its length. The PCB of an answer to an I-block
is removed even when nothing follows it, which `bit_buffer_copy_right` does not allow; the branch
for S-blocks looks at the length first.
-/

namespace FlipperZero

open Foundation

/-- A received block: its bits fit the buffer that holds them. -/
structure ReceivedBlock where
  block : BitBuffer
  fits : block.sizeBits ≤ block.capacityBytes * 8

lemma ReceivedBlock.getSizeBytes_le (received : ReceivedBlock) :
    received.block.getSizeBytes ≤ received.block.capacityBytes := by
  have hfits := received.fits
  rw [BitBuffer.getSizeBytes]
  split_ifs <;> omega

namespace BitBuffer

variable {buf other : BitBuffer} {α : Type} {n : Nat}

lemma value_startsWithByte (buf : BitBuffer) (byte : BitVec 8) :
    (buf.startsWithByte byte).value = some (decide (buf.getSizeBytes ≠ 0 ∧ buf.data 0 = byte)) := by
  rw [startsWithByte]
  split_ifs with hsize
  · rw [Reads.bind_some Reads.value_readAt]
    simp [hsize, beq_eq_decide]
  · simp [hsize]

lemma inside_startsWithByte (buf : BitBuffer) (byte : BitVec 8) :
    (buf.startsWithByte byte).Inside buf.getSizeBytes := by
  rw [startsWithByte]
  split_ifs with hsize
  · rw [Reads.inside_readAt_bind]
    exact ⟨Nat.pos_of_ne_zero hsize, Reads.inside_pure _⟩
  · exact Reads.inside_pure _

lemma isSome_copyRight (startIndex : Nat) :
    (buf.copyRight other startIndex).isSome ↔
      startIndex < other.getSizeBytes ∧ other.getSizeBytes - startIndex ≤ buf.capacityBytes := by
  rw [copyRight]
  split_ifs with h
  · exact iff_of_true rfl h
  · exact iff_of_false Bool.false_ne_true h

/-- Bytes are removed from a block that is longer and fits the output without them. -/
lemma inside_readRight (startIndex : Nat) :
    (buf.readRight other startIndex).Inside other.getSizeBytes ↔
      startIndex < other.getSizeBytes ∧ other.getSizeBytes - startIndex ≤ buf.capacityBytes := by
  rw [readRight]
  by_cases hstart : startIndex ≤ other.getSizeBytes
  · rw [Reads.inside_readRange (by omega), isSome_copyRight]
  · rw [copyRight, if_neg fun h => hstart (Nat.le_of_lt h.1)]
    simp [Reads.readRange, Reads.Inside, Nat.lt_asymm (Nat.lt_of_not_le hstart)]

lemma inside_readRight_bind {f : BitBuffer → Reads α} (hf : ∀ out, (f out).Inside other.getSizeBytes)
    (startIndex : Nat) :
    (buf.readRight other startIndex >>= f).Inside other.getSizeBytes ↔
      startIndex < other.getSizeBytes ∧ other.getSizeBytes - startIndex ≤ buf.capacityBytes := by
  rw [Reads.inside_bind, inside_readRight]
  exact and_iff_left fun out _ => hf out

lemma inside_appendByte_bind {byte : BitVec 8} {f : BitBuffer → Reads α} {P : Prop}
    (hf : ∀ out, out.getSizeBytes = buf.getSizeBytes + 1 → out.capacityBytes = buf.capacityBytes →
      ((f out).Inside n ↔ P)) :
    (.check (buf.appendByte byte) >>= f).Inside n ↔ buf.getSizeBytes + 1 ≤ buf.capacityBytes ∧ P := by
  rw [Reads.inside_bind, Reads.inside_check, Reads.value_check]
  cases hout : buf.appendByte byte with
  | none =>
    refine iff_of_false (fun h => Bool.false_ne_true h.1) fun h => ?_
    rw [appendByte, if_pos h.1] at hout
    cases hout
  | some out =>
    obtain ⟨hfits, hsize, hcapacity, _⟩ := appendByte_cases hout
    simp only [Option.isSome_some, true_and, Option.some.injEq, forall_eq', hfits]
    exact hf out hsize hcapacity

end BitBuffer

namespace Iso14443_4Layer

variable {layer : Iso14443_4Layer} {outputData blockData : BitBuffer}

/-- The blocks that `iso14443_4_layer_decode_block` takes: not empty after an R-block or a chained
I-block, and without their PCB no longer than the output. A PCB alone is no answer to an
I-block. -/
def Decodable (layer : Iso14443_4Layer) (outputData blockData : BitBuffer) : Prop :=
  if isRBlock layer.pcbPrev ∨ isChainActive layer.pcbPrev then 0 < blockData.getSizeBytes
  else if isSBlock layer.pcbPrev then blockData.getSizeBytes - 1 ≤ outputData.capacityBytes
  else blockData.data 0 = layer.pcbPrev →
    blockData.getSizeBytes ≠ 1 ∧ blockData.getSizeBytes - 1 ≤ outputData.capacityBytes

/-- `iso14443_4_layer_decode_block` is safe on these blocks and on no others. -/
lemma inside_decodeBlock_iff (layer : Iso14443_4Layer) (outputData blockData : BitBuffer) :
    (layer.decodeBlock outputData blockData).Inside blockData.getSizeBytes ↔
      layer.Decodable outputData blockData := by
  rw [decodeBlock, Decodable]
  by_cases hR : isRBlock layer.pcbPrev
  · rw [if_pos hR, if_pos (Or.inl hR), getResponsePcb, Reads.inside_readAt_bind]
    simp
  · rw [if_neg hR]
    by_cases hchain : isChainActive layer.pcbPrev
    · rw [if_pos hchain, if_pos (Or.inr hchain), getResponsePcb, Reads.inside_readAt_bind]
      simp
    · rw [if_neg hchain, if_neg (not_or.mpr ⟨hR, hchain⟩)]
      by_cases hS : isSBlock layer.pcbPrev
      · rw [if_pos hS, if_pos hS, Reads.inside_bind_of_value (BitBuffer.value_startsWithByte _ _)]
        simp only [BitBuffer.inside_startsWithByte, true_and]
        split_ifs with hlong
        · rw [BitBuffer.inside_readRight_bind fun _ => Reads.inside_pure _]
          exact and_iff_right hlong
        · simp only [Reads.inside_pure, true_iff]
          omega
      · rw [if_neg hS, if_neg hS, Reads.inside_bind_of_value (BitBuffer.value_startsWithByte _ _)]
        simp only [BitBuffer.inside_startsWithByte, true_and, decide_eq_true_eq]
        split_ifs with hstarts
        · rw [BitBuffer.inside_readRight_bind fun _ => Reads.inside_pure _]
          simp only [hstarts.2, forall_const]
          have hsize := hstarts.1
          constructor
          · rintro ⟨hlong, hfits⟩
            exact ⟨Nat.ne_of_gt hlong, hfits⟩
          · rintro ⟨hne, hfits⟩
            exact ⟨by omega, hfits⟩
        · simp only [Reads.inside_pure, true_iff]
          intro hfirst
          have hsize : blockData.getSizeBytes = 0 := by
            by_contra hsize
            exact hstarts ⟨hsize, hfirst⟩
          simp [hsize]

/-- The blocks that `iso14443_4_layer_decode_block_pwt_ext` takes: not empty, an answer to an
I-block as above, and a request for more time with its second byte and an output of two bytes. -/
def DecodablePwtExt (layer : Iso14443_4Layer) (outputData blockData : BitBuffer) : Prop :=
  0 < blockData.getSizeBytes ∧
    (blockData.data 0 &&& 0xC0 = 0x00 → blockData.data 0 = layer.pcbPrev →
      blockData.getSizeBytes ≠ 1 ∧ blockData.getSizeBytes - 1 ≤ outputData.capacityBytes) ∧
    (blockData.data 0 &&& 0xC0 = 0xC0 → blockData.data 0 &&& 0x30 = 0x30 →
      blockData.getSizeBytes ≠ 1 ∧ 2 ≤ outputData.capacityBytes)

lemma inside_readByte_bind {α : Type} {received : ReceivedBlock} {f : BitVec 8 → Reads α}
    (index : Nat) :
    (received.block.readByte index >>= f).Inside received.block.getSizeBytes ↔
      index < received.block.getSizeBytes ∧
        (f (received.block.data index)).Inside received.block.getSizeBytes := by
  rw [BitBuffer.readByte]
  split_ifs with hcapacity
  · exact Reads.inside_readAt_bind
  · rw [Reads.inside_bind]
    constructor
    · rintro ⟨hstop, _⟩
      cases hstop.1
    · rintro ⟨hindex, _⟩
      exact absurd (Nat.lt_of_lt_of_le hindex received.getSizeBytes_le) hcapacity

lemma inside_answer (outputData : BitBuffer) (first second : BitVec 8) (n : Nat) :
    ((do
      let out ← Reads.check (outputData.reset.appendByte first)
      let out ← Reads.check (out.appendByte second)
      return (Iso14443_4aError.sendExtra, out)) : Reads (Iso14443_4aError × BitBuffer)).Inside n ↔
      2 ≤ outputData.capacityBytes := by
  have hempty : outputData.reset.getSizeBytes = 0 := by
    simp [BitBuffer.reset, BitBuffer.alloc, BitBuffer.getSizeBytes]
  have hsecond (out : BitBuffer) (hsize : out.getSizeBytes = outputData.reset.getSizeBytes + 1)
      (hcapacity : out.capacityBytes = outputData.reset.capacityBytes) :
      (do
        let out ← Reads.check (out.appendByte second)
        return (Iso14443_4aError.sendExtra, out) : Reads (Iso14443_4aError × BitBuffer)).Inside n ↔
        2 ≤ outputData.capacityBytes := by
    rw [BitBuffer.inside_appendByte_bind fun _ _ _ => iff_of_true (Reads.inside_pure _) trivial,
      and_true, hsize, hcapacity, hempty]
    rfl
  rw [BitBuffer.inside_appendByte_bind hsecond, hempty]
  exact and_iff_right_of_imp Nat.le_of_succ_le

lemma inside_decodeByType_iff (layer : Iso14443_4Layer) (outputData : BitBuffer)
    (received : ReceivedBlock) (hsize : 0 < received.block.getSizeBytes) :
    (layer.decodeByType outputData.reset received.block (received.block.data 0)).Inside
        received.block.getSizeBytes ↔
      layer.DecodablePwtExt outputData received.block := by
  rw [decodeByType, DecodablePwtExt, and_iff_right hsize]
  by_cases hI : received.block.data 0 &&& 0xC0 = 0x00
  · have hS : ¬(received.block.data 0 &&& 0xC0 = 0xC0) := by
      rw [hI]
      decide
    rw [if_pos hI, and_iff_left fun h => absurd h hS, forall_prop_of_true hI]
    split_ifs with hprev
    · rw [BitBuffer.inside_readRight_bind fun _ => Reads.inside_pure _, forall_prop_of_true hprev]
      exact and_congr_left fun _ => ⟨fun h => Nat.ne_of_gt h, fun h => by omega⟩
    · exact iff_of_true (Reads.inside_pure _) fun h => absurd h hprev
  · rw [if_neg hI, and_iff_right fun h => absurd h hI]
    by_cases hR : received.block.data 0 &&& 0xC0 = 0x80
    · rw [if_pos hR, hR]
      exact iff_of_true (Reads.inside_pure _) fun h => absurd h (by decide)
    · rw [if_neg hR]
      by_cases hS : received.block.data 0 &&& 0xC0 = 0xC0
      · rw [if_pos hS, forall_prop_of_true hS]
        split_ifs with hmore
        · rw [inside_readByte_bind, forall_prop_of_true hmore, inside_answer]
          exact and_congr_left fun _ => ⟨fun h => Nat.ne_of_gt h, fun h => by omega⟩
        · exact iff_of_true (Reads.inside_pure _) fun h => absurd h hmore
      · rw [if_neg hS]
        exact iff_of_true (Reads.inside_pure _) fun h => absurd h hS

/-- `iso14443_4_layer_decode_block_pwt_ext` is safe on these blocks and on no others. -/
lemma inside_decodeBlockPwtExt_iff (layer : Iso14443_4Layer) (outputData : BitBuffer)
    (received : ReceivedBlock) :
    (layer.decodeBlockPwtExt outputData received.block).Inside received.block.getSizeBytes ↔
      layer.DecodablePwtExt outputData received.block := by
  rw [decodeBlockPwtExt, inside_readByte_bind]
  by_cases hsize : 0 < received.block.getSizeBytes
  · rw [and_iff_right hsize, Reads.inside_bind, ← inside_decodeByType_iff layer outputData received hsize]
    apply and_iff_left
    rintro ⟨ret, out⟩ _
    dsimp only
    split_ifs with hret
    · rw [Reads.inside_bind, Reads.inside_forM]
      refine ⟨fun x hx => ?_, fun _ _ => Reads.inside_pure _⟩
      rw [inside_readByte_bind]
      exact ⟨List.mem_range.mp hx, Reads.inside_pure _⟩
    · exact Reads.inside_pure _
  · exact iff_of_false (fun h => hsize h.1) fun h => hsize h.1

/-! ### Runs of calls -/

/-- The calls of the layer. -/
inductive Call where
  | setIBlock (chaining cidPresent : Bool)
  | setRBlock (acknowledged cidPresent : Bool)
  | setSBlock (deselect cidPresent : Bool)
  | encodeBlock (inputData blockData : BitBuffer)
  | decodeBlock (outputData : BitBuffer) (received : ReceivedBlock)
  | decodeBlockPwtExt (outputData : BitBuffer) (received : ReceivedBlock)

/-- The layer after a call. One that a check stops leaves it as it is. -/
def after (layer : Iso14443_4Layer) : Call → Iso14443_4Layer
  | .setIBlock chaining cidPresent     => layer.setIBlock chaining cidPresent
  | .setRBlock acknowledged cidPresent => layer.setRBlock acknowledged cidPresent
  | .setSBlock deselect cidPresent     => layer.setSBlock deselect cidPresent
  | .encodeBlock inputData blockData   =>
    match layer.encodeBlock inputData blockData with
    | some (layer, _) => layer
    | none            => layer
  | .decodeBlock outputData received   =>
    match (layer.decodeBlock outputData received.block).value with
    | some (_, layer, _) => layer
    | none               => layer
  | .decodeBlockPwtExt _ _             => layer

def calls : Mealy Iso14443_4Layer Call Unit where
  step layer call := ((), layer.after call)

/-- No check of the bit buffer stops a decoder, and it reads nothing behind the received block. -/
def Safe (layer : Iso14443_4Layer) : Call → Prop
  | .decodeBlock outputData received =>
    (layer.decodeBlock outputData received.block).Inside received.block.getSizeBytes
  | .decodeBlockPwtExt outputData received =>
    (layer.decodeBlockPwtExt outputData received.block).Inside received.block.getSizeBytes
  | _ => True

def Takes (layer : Iso14443_4Layer) : Call → Prop
  | .decodeBlock outputData received       => layer.Decodable outputData received.block
  | .decodeBlockPwtExt outputData received => layer.DecodablePwtExt outputData received.block
  | _                                      => True

lemma safe_iff_takes (layer : Iso14443_4Layer) (call : Call) : layer.Safe call ↔ layer.Takes call := by
  cases call with
  | decodeBlock outputData received => exact inside_decodeBlock_iff layer outputData received.block
  | decodeBlockPwtExt outputData received => exact inside_decodeBlockPwtExt_iff layer outputData received
  | setIBlock | setRBlock | setSBlock | encodeBlock => exact Iff.rfl

/-- From a reset layer on, the calls of a run are all safe exactly when every decoder is called
with a block that it takes in the state it is called in. -/
theorem along_safe_iff (run : List Call) :
    calls.Along Safe reset run ↔ calls.Along Takes reset run :=
  Mealy.along_congr safe_iff_takes

/-- The answer to an I-block is the PCB alone: `bit_buffer_copy_right` stops the system. -/
theorem not_along_safe_pcbAlone :
    ¬calls.Along Safe reset
      [.encodeBlock (.alloc 1) (.alloc 1),
        .decodeBlock (.alloc 256) ⟨.ofBytes [0x02], by decide⟩] := by
  rintro ⟨_, hsafe, _⟩
  revert hsafe
  show ¬Reads.Inside _ _
  decide

end Iso14443_4Layer

end FlipperZero
