import FlipperZero.Foundation.Loop
import FlipperZero.Foundation.Memory

/-!
# Compressed blocks

`compress.c` packs data with the heatshrink library, whose streaming calls are a parameter here. A
block starts with a header: four bytes with the size of the packed data, or one byte of zero before
data that is stored as it is. Both directions work in buffers of a given size; the bytes behind a
buffer are the memory that follows it.
-/

namespace FlipperZero

open Foundation

/-! ### The library -/

/-- `HSE_sink_res` and `HSD_sink_res`. -/
inductive HeatshrinkSinkRes where
  | ok
  | full
  | error
  deriving DecidableEq, Repr

/-- `HSE_poll_res` and `HSD_poll_res`. -/
inductive HeatshrinkPollRes where
  | empty
  | more
  | error
  deriving DecidableEq, Repr

/-- `HSE_finish_res` and `HSD_finish_res`. -/
inductive HeatshrinkFinishRes where
  | done
  | more
  | error
  deriving DecidableEq, Repr

/-- The calls of an encoder or a decoder of heatshrink: how many bytes a sink takes, and the bytes
that a poll gives for a buffer of a size. -/
structure Heatshrink (σ : Type*) where
  sink : σ → List (BitVec 8) → (HeatshrinkSinkRes × Nat) × σ
  poll : σ → Nat → (HeatshrinkPollRes × List (BitVec 8)) × σ
  finish : σ → HeatshrinkFinishRes × σ
  reset : σ → σ

variable {σ : Type*}

/-! ### Common parts -/

def bytesAt (mem : Memory) (a size : Nat) : List (BitVec 8) :=
  (List.range size).map fun i => mem (a + i)

/-- A `memcpy` from the input to the output, by the offsets. -/
structure Memcpy where
  dest : Nat
  src : Nat
  size : Nat
  deriving DecidableEq, Repr

/-- What a call returns and leaves: the output, the size when it is written, and the copy of bytes
that are stored as they are. -/
structure CompressResult where
  result : Bool
  dataOut : Memory
  dataResSize : Option Nat
  stored : Option Memcpy

/-- The variables of the loops. -/
structure CompressState (σ : Type*) where
  codec : σ
  sunk : Nat
  resBuffSize : Nat
  dataOut : Memory

/-- `data_out_size - res_buff_size`, a `size_t`. -/
def freeSize (dataOutSize resBuffSize : Nat) : Nat :=
  (dataOutSize + 4294967296 - resBuffSize) % 4294967296

namespace CompressState

/-- The bytes of a poll are in the output. -/
def polled (s : CompressState σ) (codec : σ) (bytes : List (BitVec 8)) : CompressState σ where
  codec := codec
  sunk := s.sunk
  resBuffSize := s.resBuffSize + bytes.length
  dataOut := s.dataOut.copy s.resBuffSize bytes

end CompressState

/-! ### Encoding -/

variable (codec : Heatshrink σ) (rounds : Nat)

/-! ### Decoding -/

/-- A round of the loop that sinks the packed data. -/
def decodeSinkRound (compressed : List (BitVec 8)) (dataOutSize : Nat)
    (s : CompressState σ × Bool) : Round (CompressState σ × Bool) (Bool × CompressState σ) :=
  if s.2 then
    let free := freeSize dataOutSize s.1.resBuffSize
    let r := codec.poll s.1.codec free
    if r.1.1 = .error ∨ free = 0 then .leave (true, { s.1 with codec := r.2 })
    else .again (s.1.polled r.2 r.1.2, r.1.1 = .more)
  else if s.1.sunk < compressed.length then
    let r := codec.sink s.1.codec (compressed.drop s.1.sunk)
    if r.1.1 = .error then .leave (true, { s.1 with codec := r.2 })
    else .again ({ s.1 with codec := r.2, sunk := s.1.sunk + r.1.2 }, true)
  else .leave (false, s.1)

/-- A round of the loop that polls the rest. It does not look at the result of the poll. -/
def decodeFinishRound (dataOutSize : Nat) (s : CompressState σ) :
    Round (CompressState σ) (Bool × CompressState σ) :=
  let r := codec.poll s.codec (freeSize dataOutSize s.resBuffSize)
  let s := s.polled r.2 r.1.2
  let f := codec.finish s.codec
  if f.1 = .done then .leave (false, { s with codec := f.2 })
  else .again { s with codec := f.2 }

/-- The rest of a decoding, when the packed data has been sunk. -/
def decodeFinish (dataOutSize : Nat) (failed : Bool) (s : CompressState σ) :
    Option (Bool × CompressState σ) :=
  if failed then some (true, s)
  else
    let f := codec.finish s.codec
    if f.1 = .error then some (true, { s with codec := f.2 })
    else loop (decodeFinishRound codec dataOutSize) rounds { s with codec := f.2 }

/-- `compress_decode_internal`, whose sizes are `size_t`. -/
def compressDecodeInternal (decoder : σ) (dataIn : Memory) (dataInSize : Nat) (dataOut : Memory)
    (dataOutSize : Nat) : Option (CompressResult × σ) :=
  if dataIn 0 ≠ 0 then do
    let compressedSize := (dataIn 3 ++ dataIn 2).toNat
    let (failed, s) ← loop (decodeSinkRound codec (bytesAt dataIn 4 compressedSize) dataOutSize)
      rounds (⟨decoder, 0, 0, dataOut⟩, false)
    let (failed, s) ← decodeFinish codec rounds dataOutSize failed s
    return ({ result := !failed
              dataOut := s.dataOut
              dataResSize := some s.resBuffSize
              stored := none }, codec.reset s.codec)
  else if (dataInSize + 4294967295) % 4294967296 ≤ dataOutSize then
    some ({ result := true
            dataOut := dataOut.copy 0 (bytesAt dataIn 1 dataInSize)
            dataResSize := some (dataInSize - 1)
            stored := some ⟨0, 1, dataInSize⟩ }, codec.reset decoder)
  else
    some ({ result := false
            dataOut := dataOut
            dataResSize := none
            stored := none }, codec.reset decoder)

/-! ### Stored blocks -/

/-- A call fails, or copies all but one byte, from inside the input to inside the output, and
reports as many. -/
def CompressResult.DecodesStored (r : CompressResult) (dataInSize dataOutSize : Nat) : Prop :=
  r.result = false ∨ ∃ c, r.stored = some c ∧ c.size = dataInSize - 1 ∧
    c.src + c.size ≤ dataInSize ∧ c.dest + c.size ≤ dataOutSize ∧
    r.dataResSize = some (dataInSize - 1)

/-- A stored block is decoded by a copy of one byte too many, unless the output is so small that the
call fails. -/
theorem compressDecodeInternal_stored_iff (decoder : σ) {dataIn : Memory} (dataOut : Memory)
    {dataInSize dataOutSize : Nat} (hheader : dataIn 0 = 0) (hsize : 1 ≤ dataInSize)
    (hword : dataInSize < 4294967296) :
    (∃ r, compressDecodeInternal codec rounds decoder dataIn dataInSize dataOut dataOutSize =
        some r ∧ r.1.DecodesStored dataInSize dataOutSize) ↔
      dataOutSize < dataInSize - 1 := by
  have hmod : (dataInSize + 4294967295) % 4294967296 = dataInSize - 1 := by omega
  have hstored : ¬dataIn 0 ≠ 0 := not_not.mpr hheader
  rw [compressDecodeInternal, if_neg hstored, hmod]
  constructor
  · rintro ⟨r, hr, hdecodes⟩
    by_contra hfits
    rw [if_pos (Nat.not_lt.mp hfits)] at hr
    obtain rfl := Option.some.inj hr
    rcases hdecodes with hfailed | ⟨c, hc, hcopied, -⟩
    · cases hfailed
    · obtain rfl := Option.some.inj hc
      simp only at hcopied
      omega
  · intro hsmall
    rw [if_neg (Nat.not_le.mpr hsmall)]
    exact ⟨_, rfl, .inl rfl⟩

/-- Two bytes do not fit behind a header of one when only a byte is free. -/
theorem compressDecodeInternal_stored_small :
    (∃ r, compressDecodeInternal (σ := Unit) ⟨fun s _ => ((.error, 0), s), fun s _ => ((.error, []), s),
        fun s => (.error, s), id⟩ 0 () (Memory.copy (fun _ => 0) 1 [7, 8]) 3 (fun _ => 0) 1 = some r ∧
        r.1.DecodesStored 3 1) ↔ 1 < 3 - 1 :=
  compressDecodeInternal_stored_iff _ 0 () _ (by decide) (by decide) (by decide)

/-- Decoding two bytes that fill the output writes a third. -/
theorem compressDecodeInternal_stored_full :
    ¬∃ r, compressDecodeInternal (σ := Unit) ⟨fun s _ => ((.error, 0), s), fun s _ => ((.error, []), s),
        fun s => (.error, s), id⟩ 0 () (Memory.copy (fun _ => 0) 1 [7, 8]) 3 (fun _ => 0) 2 = some r ∧
        r.1.DecodesStored 3 2 := by
  rintro ⟨r, hr, hdecodes⟩
  obtain rfl := Option.some.inj hr
  rcases hdecodes with hfailed | ⟨c, hc, hcopied, -⟩
  · cases hfailed
  · obtain rfl := Option.some.inj hc
    exact absurd hcopied (by decide)

end FlipperZero
