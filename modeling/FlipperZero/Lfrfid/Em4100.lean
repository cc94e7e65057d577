import FlipperZero.BitLib.BitWindow
import FlipperZero.Foundation.ShiftWindow
import FlipperZero.Toolbox.PulseGlue

/-!
# EM4100 cards

The frame of a card has nine ones, ten rows of four bits with an even parity bit, four even parity
bits of the columns and a zero. No other rotation of a frame starts with nine ones and ends with a
zero.
-/

namespace FlipperZero

open Foundation

/-! ### The protocol -/

structure ProtocolEM4100 where
  data : Memory
  encodedData : BitVec 64
  encodedEpilogue : BitVec 64
  encodedDataIndex : Nat
  encodedPolarity : Bool
  decoderManchesterState : ManchesterState
  clockPerBit : BitVec 8

def protocolEm4100GetTimeDivisor (proto : ProtocolEM4100) : Nat :=
  if proto.clockPerBit = 64 then 1
  else if proto.clockPerBit = 32 then 2
  else if proto.clockPerBit = 16 then 4
  else 1

def protocolEm4100GetShortTimeLow (proto : ProtocolEM4100) : Nat :=
  256 / protocolEm4100GetTimeDivisor proto - 100 / protocolEm4100GetTimeDivisor proto

def protocolEm4100GetShortTimeHigh (proto : ProtocolEM4100) : Nat :=
  256 / protocolEm4100GetTimeDivisor proto + 100 / protocolEm4100GetTimeDivisor proto

def protocolEm4100GetLongTimeLow (proto : ProtocolEM4100) : Nat :=
  512 / protocolEm4100GetTimeDivisor proto - 100 / protocolEm4100GetTimeDivisor proto

def protocolEm4100GetLongTimeHigh (proto : ProtocolEM4100) : Nat :=
  512 / protocolEm4100GetTimeDivisor proto + 100 / protocolEm4100GetTimeDivisor proto

/-- The three `protocol_em4100_alloc`s, which give the clocks of a bit. The memory is cleared. -/
def protocolEm4100AllocWith (clockPerBit : BitVec 8) : ProtocolEM4100 where
  data := fun _ => 0
  encodedData := 0
  encodedEpilogue := 0
  encodedDataIndex := 0
  encodedPolarity := false
  decoderManchesterState := .start1
  clockPerBit := clockPerBit

def protocolEm4100Alloc : ProtocolEM4100 := protocolEm4100AllocWith 64

/-! ### The decoder -/

/-- What `em4100_decode` keeps from row to row. -/
structure Em4100Decode where
  cardData : BitVec 64
  value : BitVec 8
  decodedData : Memory
  decodedDataIndex : Nat

/-- A row of `em4100_decode`. -/
def em4100DecodeRow (s : Em4100Decode) (r : Nat) : Em4100Decode :=
  let row := (List.range 5).foldl (fun (row : BitVec 8 × BitVec 64) i =>
    (if i < 4 then shiftIn row.1 (row.2.getLsbD 63) else row.1, row.2 <<< 1)) (0, s.cardData)
  let value := s.value <<< 4 ||| row.1
  if r % 2 ≠ 0 then
    { cardData := row.2
      value := 0
      decodedData := Function.update s.decodedData s.decodedDataIndex
        (s.decodedData s.decodedDataIndex ||| value)
      decodedDataIndex := s.decodedDataIndex + 1 }
  else { s with cardData := row.2, value := value }

/-- `em4100_decode`. The array of five bytes is cleared first. -/
def em4100Decode (encodedData : BitVec 64) : Memory :=
  let cardData := (List.range 9).foldl (fun (cardData : BitVec 64) _ => cardData <<< 1) encodedData
  ((List.range 10).foldl em4100DecodeRow ⟨cardData, 0, fun _ => 0, 0⟩).decodedData

/-- `EM_HEADER_MASK`, which is also `EM_ENCODED_DATA_HEADER`. -/
def emHeaderMask : BitVec 64 := 0xFF80000000000000

def emStopMask : BitVec 64 := 1

def em4100CanBeDecoded (cardData epilogue : BitVec 64) : Bool :=
  epilogue &&& emHeaderMask == emHeaderMask &&
  cardData &&& (emHeaderMask ||| emStopMask) == emHeaderMask &&
  ((List.range 10).all fun i =>
    ((List.range 5).map fun j => (cardData.getLsbD (50 - i * 5 + j)).toNat).sum % 2 == 0) &&
  (List.range 4).all fun i =>
    ((List.range 11).map fun j => (cardData.getLsbD (4 - i + j * 5)).toNat).sum % 2 == 0

def protocolEm4100DecoderStart (proto : ProtocolEM4100) : ProtocolEM4100 :=
  { proto with
    data := fun _ => 0
    encodedData := 0
    decoderManchesterState := (manchesterAdvance proto.decoderManchesterState .reset).1 }

/-- The event of `protocol_em4100_decoder_feed`. -/
def protocolEm4100Event (proto : ProtocolEM4100) (level : Bool) (duration : BitVec 32) :
    ManchesterEvent :=
  if protocolEm4100GetShortTimeLow proto < duration.toNat ∧
      duration.toNat < protocolEm4100GetShortTimeHigh proto then
    if !level then .shortHigh else .shortLow
  else if protocolEm4100GetLongTimeLow proto < duration.toNat ∧
      duration.toNat < protocolEm4100GetLongTimeHigh proto then
    if !level then .longHigh else .longLow
  else .reset

def protocolEm4100DecoderFeed (proto : ProtocolEM4100) (level : Bool) (duration : BitVec 32) :
    Bool × ProtocolEM4100 :=
  let event := protocolEm4100Event proto level duration
  if event = .reset then (false, proto)
  else
    let r := manchesterAdvance proto.decoderManchesterState event
    let proto := { proto with decoderManchesterState := r.1 }
    match r.2 with
    | none      => (false, proto)
    | some data =>
      let carry := proto.encodedEpilogue.getLsbD 63
      let encodedData := shiftIn proto.encodedData carry
      let encodedEpilogue := shiftIn proto.encodedEpilogue data
      let proto := { proto with encodedData := encodedData, encodedEpilogue := encodedEpilogue }
      if em4100CanBeDecoded encodedData encodedEpilogue then
        (true, { proto with data := em4100Decode encodedData })
      else (false, proto)

/-! ### The encoder -/

def em4100WriteNibble (lowNibble : Bool) (data : BitVec 8) (encodedData : BitVec 64) : BitVec 64 :=
  let start := if !lowNibble then 4 else 0
  let r := (List.range 4).foldl (fun (r : Nat × BitVec 64) k =>
    let bit := data.getLsbD (start + 3 - k)
    (r.1 + bit.toNat, shiftIn r.2 bit)) (0, encodedData)
  shiftIn r.2 (r.1 % 2 == 1)

/-- The frame that `protocol_em4100_encoder_start` makes. -/
def em4100Frame (data : Memory) : BitVec 64 :=
  let encodedData := (List.range 5).foldl (fun encodedData i =>
    em4100WriteNibble true (data i) (em4100WriteNibble false (data i) encodedData)) 0b111111111
  let encodedData := (List.range 4).foldl (fun (encodedData : BitVec 64) _ =>
    shiftIn encodedData
      (((List.range 10).map fun i => (encodedData.getLsbD ((i + 1) * 5 - 1)).toNat).sum % 2 == 1))
    encodedData
  shiftIn encodedData false

def protocolEm4100EncoderStart (proto : ProtocolEM4100) : ProtocolEM4100 :=
  { proto with
    encodedData := em4100Frame proto.data
    encodedDataIndex := 0
    encodedPolarity := true }

def protocolEm4100EncoderYield (proto : ProtocolEM4100) :
    (Bool × BitVec 32) × ProtocolEM4100 :=
  let level := proto.encodedData.getLsbD (63 - proto.encodedDataIndex)
  let duration := (proto.clockPerBit / 2).setWidth 32
  if proto.encodedPolarity then ((level, duration), { proto with encodedPolarity := false })
  else
    let encodedDataIndex := proto.encodedDataIndex + 1
    ((!level, duration),
      { proto with
        encodedPolarity := true
        encodedDataIndex := if 64 ≤ encodedDataIndex then 0 else encodedDataIndex })

/-! ### The bits of a frame -/

def em4100RowParity (data : Memory) (row : Nat) : Bool :=
  xorBelow (fun k => bitLibGetBit data (4 * row + k)) 4

/-- The parity of a column, from the last row on. -/
def em4100ColumnParity (data : Memory) (c : Nat) : Bool :=
  xorBelow (fun i => bitLibGetBit data (4 * (9 - i) + c)) 10

/-- The bits of a frame. -/
def em4100Bit (data : Memory) (j : Nat) : Bool :=
  if j < 9 then true
  else if j < 59 then
    if (j - 9) % 5 < 4 then bitLibGetBit data (4 * ((j - 9) / 5) + (j - 9) % 5)
    else em4100RowParity data ((j - 9) / 5)
  else if j < 63 then em4100ColumnParity data (j - 59)
  else false

variable (data : Memory)

lemma em4100Bit_header {j : Nat} (h : j < 9) : em4100Bit data j = true := if_pos h

lemma em4100Bit_row {row k : Nat} (hrow : row < 10) (hk : k < 4) :
    em4100Bit data (9 + 5 * row + k) = bitLibGetBit data (4 * row + k) := by
  have hsub : 9 + 5 * row + k - 9 = 5 * row + k := by omega
  have hdiv : (5 * row + k) / 5 = row := by omega
  have hmod : (5 * row + k) % 5 = k := by omega
  rw [em4100Bit, if_neg (by omega), if_pos (by omega), hsub, hdiv, hmod, if_pos hk]

lemma em4100Bit_rowParity {row : Nat} (hrow : row < 10) :
    em4100Bit data (9 + 5 * row + 4) = em4100RowParity data row := by
  have hsub : 9 + 5 * row + 4 - 9 = 5 * row + 4 := by omega
  have hdiv : (5 * row + 4) / 5 = row := by omega
  have hmod : (5 * row + 4) % 5 = 4 := by omega
  rw [em4100Bit, if_neg (by omega), if_pos (by omega), hsub, hdiv, hmod, if_neg (by decide)]

lemma em4100Bit_columnParity {c : Nat} (hc : c < 4) :
    em4100Bit data (59 + c) = em4100ColumnParity data c := by
  have hsub : 59 + c - 59 = c := by omega
  rw [em4100Bit, if_neg (by omega), if_neg (by omega), if_pos (by omega), hsub]

lemma em4100Bit_stop : em4100Bit data 63 = false := rfl

lemma em4100WriteNibble_eq {lowNibble : Bool} {byte : BitVec 8} {f : Nat → Bool} {n : Nat}
    (hbits : ∀ k < 4, f (n + k) = byte.getLsbD ((if !lowNibble then 4 else 0) + 3 - k))
    (hparity : f (n + 4) = xorBelow (fun k => f (n + k)) 4) :
    em4100WriteNibble lowNibble byte (packed 64 f n) = packed 64 f (n + 5) := by
  have hsum (a b c d : Bool) : ((0 + a.toNat + b.toNat + c.toNat + d.toNat) % 2 == 1) =
      (false ^^ a ^^ b ^^ c ^^ d) := by
    cases a <;> cases b <;> cases c <;> cases d <;> rfl
  have hrow : packed 64 f (n + 5) = shiftIn (shiftIn (shiftIn (shiftIn (shiftIn (packed 64 f n)
      (f (n + 0))) (f (n + 1))) (f (n + 2))) (f (n + 3))) (f (n + 4)) := rfl
  rw [hrow, hparity]
  simp only [xorBelow]
  rw [hbits 0 (by decide), hbits 1 (by decide), hbits 2 (by decide), hbits 3 (by decide), ← hsum]
  rfl

lemma em4100Frame_rows (n : Nat) (hn : n ≤ 5) :
    (List.range n).foldl (fun encodedData i =>
      em4100WriteNibble true (data i) (em4100WriteNibble false (data i) encodedData)) 0b111111111 =
      packed 64 (em4100Bit data) (9 + 10 * n) := by
  induction n with
  | zero =>
    have hheader : packed 64 (em4100Bit data) 9 = packed 64 (fun _ => true) 9 :=
      packed_congr fun j hj => em4100Bit_header data hj
    exact hheader.symm
  | succ n ih =>
    have hrow (row k : Nat) (hrow : row < 10) (hk : k < 4) (hbyte : row / 2 = n) :
        em4100Bit data (9 + 5 * row + k) = (data n).getLsbD (7 - 4 * (row % 2) - k) := by
      have hdiv : (4 * row + k) / 8 = n := by omega
      have hmod : 7 - (4 * row + k) % 8 = 7 - 4 * (row % 2) - k := by omega
      rw [em4100Bit_row data hrow hk, bitLibGetBit_eq, hdiv, hmod]
    have hparity (row : Nat) (hlt : row < 10) : em4100Bit data (9 + 5 * row + 4) =
        xorBelow (fun k => em4100Bit data (9 + 5 * row + k)) 4 := by
      rw [em4100Bit_rowParity data hlt]
      exact xorBelow_congr fun k hk => (em4100Bit_row data hlt hk).symm
    have hhigh : em4100WriteNibble false (data n) (packed 64 (em4100Bit data) (9 + 5 * (2 * n))) =
        packed 64 (em4100Bit data) (9 + 5 * (2 * n) + 5) := by
      apply em4100WriteNibble_eq
      · intro k hk
        have heven : 2 * n % 2 = 0 := by omega
        rw [hrow (2 * n) k (by omega) hk (by omega), heven]
        rfl
      · exact hparity (2 * n) (by omega)
    have hlow : em4100WriteNibble true (data n)
        (packed 64 (em4100Bit data) (9 + 5 * (2 * n + 1))) =
          packed 64 (em4100Bit data) (9 + 5 * (2 * n + 1) + 5) := by
      apply em4100WriteNibble_eq
      · intro k hk
        have hodd : (2 * n + 1) % 2 = 1 := by omega
        rw [hrow (2 * n + 1) k (by omega) hk (by omega), hodd]
        rfl
      · exact hparity (2 * n + 1) (by omega)
    have hstart : 9 + 10 * n = 9 + 5 * (2 * n) := by omega
    have hmiddle : 9 + 5 * (2 * n) + 5 = 9 + 5 * (2 * n + 1) := by omega
    have hend : 9 + 5 * (2 * n + 1) + 5 = 9 + 10 * (n + 1) := by omega
    rw [List.range_succ, List.foldl_append, ih (Nat.le_of_succ_le hn), List.foldl_cons,
      List.foldl_nil, hstart, hhigh, hmiddle, hlow, hend]

lemma em4100Frame_columns (n : Nat) (hn : n ≤ 4) :
    (List.range n).foldl (fun (encodedData : BitVec 64) _ =>
      shiftIn encodedData
        (((List.range 10).map fun i => (encodedData.getLsbD ((i + 1) * 5 - 1)).toNat).sum % 2 == 1))
      (packed 64 (em4100Bit data) 59) = packed 64 (em4100Bit data) (59 + n) := by
  induction n with
  | zero => rfl
  | succ n ih =>
    rw [@List.range_succ n, List.foldl_append, ih (Nat.le_of_succ_le hn), List.foldl_cons,
      List.foldl_nil, sum_toNat_mod_two]
    have hcolumn : xorBelow (fun i =>
        (packed 64 (em4100Bit data) (59 + n)).getLsbD ((i + 1) * 5 - 1)) 10 =
          em4100ColumnParity data n := by
      apply xorBelow_congr
      intro i hi
      have hindex : 59 + n - 1 - ((i + 1) * 5 - 1) = 9 + 5 * (9 - i) + n := by omega
      rw [getLsbD_packed _ (by omega), decide_eq_true (by omega), Bool.true_and, hindex,
        em4100Bit_row data (by omega) (by omega)]
    have hbit (b : Bool) : (b.toNat == 1) = b := by cases b <;> rfl
    rw [hcolumn, hbit, ← em4100Bit_columnParity data (by omega)]
    rfl

/-- The frame is made of its bits. -/
theorem em4100Frame_eq : em4100Frame data = packed 64 (em4100Bit data) 64 := by
  rw [em4100Frame, em4100Frame_rows data 5 (Nat.le_refl 5), em4100Frame_columns data 4 (Nat.le_refl 4)]
  rfl

/-! ### Rotations -/

/-- The bits of frames that are sent over and over. -/
def em4100Sent (j : Nat) : Bool := em4100Bit data (j % 64)

/-- Nine ones behind a zero are the header of a frame. -/
theorem em4100Sent_header {q : Nat} (hbefore : em4100Sent data (q + 63) = false)
    (hones : ∀ k < 9, em4100Sent data (q + k) = true) : q % 64 = 0 := by
  by_contra hne
  obtain ⟨r, hr⟩ : ∃ r, q % 64 = r := ⟨_, rfl⟩
  have hlast : em4100Bit data (r - 1) = false := by
    have hmod : (q + 63) % 64 = r - 1 := by omega
    rw [← hmod]
    exact hbefore
  have hbits (k : Nat) (hk : k < 9) (hlt : r + k < 64) : em4100Bit data (r + k) = true := by
    have hmod : (q + k) % 64 = r + k := by omega
    rw [← hmod]
    exact hones k hk
  have hr10 : 10 ≤ r := by
    by_contra hlow
    rw [em4100Bit_header data (by omega)] at hlast
    exact Bool.noConfusion hlast
  have hr54 : r ≤ 54 := by
    by_contra hhigh
    have hstop := hbits (63 - r) (by omega) (by omega)
    rw [Nat.add_sub_cancel' (by omega), em4100Bit_stop] at hstop
    exact Bool.noConfusion hstop
  -- they would cover a whole row, of which an odd number of bits cannot be set
  obtain ⟨row, hrow⟩ : ∃ row, row = (r - 9 + 4) / 5 := ⟨_, rfl⟩
  have hset (k : Nat) (hk : k < 5) : em4100Bit data (9 + 5 * row + k) = true := by
    have hposition : r + (9 + 5 * row + k - r) = 9 + 5 * row + k := by omega
    rw [← hposition]
    exact hbits _ (by omega) (by omega)
  have hparity := hset 4 (by decide)
  have hall (k : Nat) (hk : k < 4) : bitLibGetBit data (4 * row + k) = true := by
    rw [← em4100Bit_row data (by omega) hk]
    exact hset k (by omega)
  rw [em4100Bit_rowParity data (by omega), em4100RowParity, xorBelow_congr hall] at hparity
  exact Bool.noConfusion hparity

/-! ### The check -/

lemma and_emHeaderMask_iff (word : BitVec 64) :
    word &&& emHeaderMask = emHeaderMask ↔ ∀ k < 9, word.getLsbD (63 - k) = true := by
  have hmask : ∀ i < 64, emHeaderMask.getLsbD i = decide (55 ≤ i) := by decide
  constructor
  · intro heq k hk
    have hbit := congrArg (fun w => w.getLsbD (63 - k)) heq
    simp only [BitVec.getLsbD_and] at hbit
    rw [hmask _ (by omega), decide_eq_true (by omega), Bool.and_true] at hbit
    exact hbit
  · intro hones
    apply BitVec.eq_of_getLsbD_eq
    intro i hi
    rw [BitVec.getLsbD_and, hmask i hi]
    by_cases hin : 55 ≤ i
    · have hindex : 63 - (63 - i) = i := by omega
      have hone := hones (63 - i) (by omega)
      rw [hindex] at hone
      rw [hone, Bool.true_and]
    · rw [decide_eq_false hin, Bool.and_false]

lemma and_emStopMask_iff (word : BitVec 64) :
    word &&& (emHeaderMask ||| emStopMask) = emHeaderMask ↔
      word &&& emHeaderMask = emHeaderMask ∧ word.getLsbD 0 = false := by
  have hmask : ∀ i < 64, emHeaderMask.getLsbD i = decide (55 ≤ i) := by decide
  have hstop : ∀ i < 64, emStopMask.getLsbD i = decide (i = 0) := by decide
  have hbits (i : Nat) (hi : i < 64) : (word &&& (emHeaderMask ||| emStopMask)).getLsbD i =
      (word.getLsbD i && (decide (55 ≤ i) || decide (i = 0))) := by
    rw [BitVec.getLsbD_and, BitVec.getLsbD_or, hmask i hi, hstop i hi]
  constructor
  · intro heq
    refine ⟨BitVec.eq_of_getLsbD_eq fun i hi => ?_, ?_⟩
    · have hbit := hbits i hi
      rw [heq, hmask i hi] at hbit
      rw [BitVec.getLsbD_and, hmask i hi]
      by_cases hin : 55 ≤ i
      · rw [decide_eq_true hin, Bool.true_or, Bool.and_true] at hbit
        rw [← hbit, Bool.true_and, decide_eq_true hin]
      · rw [decide_eq_false hin, Bool.and_false]
    · have hbit := hbits 0 (by decide)
      rw [heq, hmask 0 (by decide)] at hbit
      simpa using hbit.symm
  · rintro ⟨heq, hzero⟩
    apply BitVec.eq_of_getLsbD_eq
    intro i hi
    rw [hbits i hi]
    by_cases hfirst : i = 0
    · rw [hfirst, hzero, Bool.false_and, hmask 0 (by decide)]
      rfl
    · rw [decide_eq_false hfirst, Bool.or_false, ← hmask i hi, ← BitVec.getLsbD_and, heq]

lemma em4100CanBeDecoded_header {cardData epilogue : BitVec 64}
    (h : em4100CanBeDecoded cardData epilogue = true) :
    (∀ k < 9, epilogue.getLsbD (63 - k) = true) ∧ (∀ k < 9, cardData.getLsbD (63 - k) = true) ∧
      cardData.getLsbD 0 = false := by
  rw [em4100CanBeDecoded, Bool.and_eq_true, Bool.and_eq_true, Bool.and_eq_true, beq_iff_eq,
    beq_iff_eq, and_emStopMask_iff, and_emHeaderMask_iff, and_emHeaderMask_iff] at h
  exact ⟨h.1.1.1, h.1.1.2⟩

lemma em4100CanBeDecoded_frame {epilogue : BitVec 64}
    (h : ∀ k < 9, epilogue.getLsbD (63 - k) = true) :
    em4100CanBeDecoded (packed 64 (em4100Bit data) 64) epilogue = true := by
  have hbits (i : Nat) (hi : i < 64) :
      (packed 64 (em4100Bit data) 64).getLsbD i = em4100Bit data (63 - i) := by
    rw [getLsbD_packed _ hi, decide_eq_true hi, Bool.true_and]
  rw [em4100CanBeDecoded, Bool.and_eq_true, Bool.and_eq_true, Bool.and_eq_true, beq_iff_eq,
    beq_iff_eq, and_emStopMask_iff, and_emHeaderMask_iff, and_emHeaderMask_iff, List.all_eq_true,
    List.all_eq_true]
  refine ⟨⟨⟨h, fun k hk => ?_, ?_⟩, fun row hrow => ?_⟩, fun c hc => ?_⟩
  · have hindex : 63 - (63 - k) = k := by omega
    rw [hbits _ (by omega), hindex]
    exact em4100Bit_header data hk
  · rw [hbits 0 (by decide)]
    exact em4100Bit_stop data
  · have hlt : row < 10 := List.mem_range.mp hrow
    have hbit (k : Nat) (hk : k < 5) : (packed 64 (em4100Bit data) 64).getLsbD (50 - row * 5 + k) =
        em4100Bit data (9 + 5 * row + (4 - k)) := by
      have hindex : 63 - (50 - row * 5 + k) = 9 + 5 * row + (4 - k) := by omega
      rw [hbits _ (by omega), hindex]
    rw [sum_toNat_mod_two, xorBelow_congr hbit]
    simp only [xorBelow]
    rw [Nat.sub_zero, em4100Bit_rowParity data hlt, em4100Bit_row data hlt (by decide),
      em4100Bit_row data hlt (by decide), em4100Bit_row data hlt (by decide),
      em4100Bit_row data hlt (by decide), em4100RowParity]
    simp only [xorBelow]
    have hsum (a b d e : Bool) :
        ((false ^^ (false ^^ a ^^ b ^^ d ^^ e) ^^ e ^^ d ^^ b ^^ a).toNat == 0) = true := by
      cases a <;> cases b <;> cases d <;> cases e <;> rfl
    exact hsum _ _ _ _
  · have hlt : c < 4 := List.mem_range.mp hc
    have hfirst : (packed 64 (em4100Bit data) 64).getLsbD (4 - c + 0 * 5) =
        em4100ColumnParity data c := by
      have hindex : 63 - (4 - c + 0 * 5) = 59 + c := by omega
      rw [hbits _ (by omega), hindex, em4100Bit_columnParity data hlt]
    have hrest : xorBelow (fun i =>
        (packed 64 (em4100Bit data) 64).getLsbD (4 - c + (i + 1) * 5)) 10 =
          em4100ColumnParity data c := by
      apply xorBelow_congr
      intro i hi
      have hindex : 63 - (4 - c + (i + 1) * 5) = 9 + 5 * (9 - i) + c := by omega
      rw [hbits _ (by omega), hindex, em4100Bit_row data (by omega) hlt]
    rw [sum_toNat_mod_two, xorBelow_succ, hfirst, hrest, Bool.xor_self]
    rfl

lemma rotateLeft_em4100Frame {r : Nat} (hr : r < 64) :
    (em4100Frame data).rotateLeft r = packed 64 (fun k => em4100Sent data (r + k)) 64 := by
  apply BitVec.eq_of_getLsbD_eq
  intro i hi
  rw [BitVec.getLsbD_rotateLeft, Nat.mod_eq_of_lt hr, getLsbD_packed _ hi, decide_eq_true hi,
    Bool.true_and, em4100Sent, em4100Frame_eq]
  by_cases hlow : i < r
  · have hindex : 64 - 1 - (64 - r + i) = (r + (64 - 1 - i)) % 64 := by omega
    rw [decide_eq_true hlow, cond_true, getLsbD_packed _ (by omega), decide_eq_true (by omega),
      Bool.true_and, Bool.true_and, hindex]
  · have hindex : 64 - 1 - (i - r) = (r + (64 - 1 - i)) % 64 := by omega
    rw [decide_eq_false hlow, cond_false, Bool.true_and, getLsbD_packed _ (by omega),
      decide_eq_true (by omega), Bool.true_and, hindex]

/-- Of the rotations of a frame only the frame itself is accepted. -/
theorem em4100CanBeDecoded_rotateLeft {r : Nat} (hr : r < 64) :
    em4100CanBeDecoded ((em4100Frame data).rotateLeft r) ((em4100Frame data).rotateLeft r) = true ↔
      r = 0 := by
  rw [rotateLeft_em4100Frame data hr]
  have hbits (i : Nat) (hi : i < 64) : (packed 64 (fun k => em4100Sent data (r + k)) 64).getLsbD i =
      em4100Sent data (r + (63 - i)) := by
    rw [getLsbD_packed _ hi, decide_eq_true hi, Bool.true_and]
  constructor
  · intro haccept
    obtain ⟨-, hones, hstop⟩ := em4100CanBeDecoded_header haccept
    rw [hbits 0 (by decide)] at hstop
    have hheader := em4100Sent_header data hstop fun k hk => by
      have hindex : 63 - (63 - k) = k := by omega
      have hone := hones k hk
      rw [hbits _ (by omega), hindex] at hone
      exact hone
    rwa [Nat.mod_eq_of_lt hr] at hheader
  · rintro rfl
    have hword : packed 64 (fun k => em4100Sent data (0 + k)) 64 = packed 64 (em4100Bit data) 64 :=
      packed_congr fun k hk => by rw [Nat.zero_add, em4100Sent, Nat.mod_eq_of_lt hk]
    rw [hword]
    apply em4100CanBeDecoded_frame
    intro k hk
    have hindex : 63 - (63 - k) = k := by omega
    rw [← hword, hbits _ (by omega), hindex, Nat.zero_add, em4100Sent, Nat.mod_eq_of_lt (by omega)]
    exact em4100Bit_header data hk

/-! ### Decoding -/

lemma em4100DecodeRow_bits (cardData : BitVec 64) (n : Nat) (hn : n ≤ 5) :
    (List.range n).foldl (fun (row : BitVec 8 × BitVec 64) i =>
      (if i < 4 then shiftIn row.1 (row.2.getLsbD 63) else row.1, row.2 <<< 1)) (0, cardData) =
      (packed 8 (fun k => cardData.getLsbD (63 - k)) (min n 4), cardData <<< n) := by
  induction n with
  | zero => simp [packed]
  | succ n ih =>
    have hnext : (cardData <<< n).getLsbD 63 = cardData.getLsbD (63 - n) := by
      rw [BitVec.getLsbD_shiftLeft, decide_eq_true (by decide), decide_eq_false (by omega)]
      rfl
    rw [List.range_succ, List.foldl_append, ih (Nat.le_of_succ_le hn), List.foldl_cons,
      List.foldl_nil, hnext, ← BitVec.shiftLeft_add]
    by_cases hlast : n < 4
    · have hmin : min n 4 = n := by omega
      have hmin' : min (n + 1) 4 = n + 1 := by omega
      rw [if_pos hlast, hmin, hmin', packed]
    · have hmin : min n 4 = 4 := by omega
      have hmin' : min (n + 1) 4 = 4 := by omega
      rw [if_neg hlast, hmin, hmin']

/-- The bits of a row of a card, in the lower half of a byte. -/
def em4100Nibble (row : Nat) : BitVec 8 := packed 8 (fun k => bitLibGetBit data (4 * row + k)) 4

lemma em4100Nibble_pair (i : Nat) :
    em4100Nibble data (2 * i) <<< 4 ||| em4100Nibble data (2 * i + 1) = data i := by
  have hjoin := packed_add (w := 8) (fun k => bitLibGetBit data (8 * i + k)) 4 4
  have hlow : em4100Nibble data (2 * i) = packed 8 (fun k => bitLibGetBit data (8 * i + k)) 4 :=
    packed_congr fun k _ => congrArg _ (by omega)
  have hhigh : em4100Nibble data (2 * i + 1) =
      packed 8 (fun k => bitLibGetBit data (8 * i + (4 + k))) 4 :=
    packed_congr fun k _ => congrArg _ (by omega)
  rw [hlow, hhigh, ← hjoin]
  apply BitVec.eq_of_getLsbD_eq
  intro j hj
  have hdiv : (8 * i + (4 + 4 - 1 - j)) / 8 = i := by omega
  have hmod : 7 - (8 * i + (4 + 4 - 1 - j)) % 8 = j := by omega
  rw [getLsbD_packed _ hj, decide_eq_true hj, Bool.true_and, bitLibGetBit_eq, hdiv, hmod]

/-- What is kept behind some rows of a frame. -/
structure Em4100Decoded (n : Nat) (s : Em4100Decode) : Prop where
  cardData : s.cardData = packed 64 (em4100Bit data) 64 <<< (9 + 5 * n)
  value : s.value = if n % 2 = 0 then 0 else em4100Nibble data (n - 1)
  decodedData : ∀ i, s.decodedData i = if i < n / 2 then data i else 0
  decodedDataIndex : s.decodedDataIndex = n / 2

lemma Em4100Decoded.succ {n : Nat} {s : Em4100Decode} (h : Em4100Decoded data n s) (hn : n < 10) :
    Em4100Decoded data (n + 1) (em4100DecodeRow s n) := by
  have hnibble : packed 8 (fun k => s.cardData.getLsbD (63 - k)) 4 = em4100Nibble data n := by
    apply packed_congr
    intro k hk
    have hindex : 64 - 1 - (63 - k - (9 + 5 * n)) = 9 + 5 * n + k := by omega
    rw [h.cardData, BitVec.getLsbD_shiftLeft, decide_eq_true (by omega), decide_eq_false (by omega),
      getLsbD_packed _ (by omega), decide_eq_true (by omega), hindex, em4100Bit_row data hn hk]
    rfl
  have hshift : s.cardData <<< 5 = packed 64 (em4100Bit data) 64 <<< (9 + 5 * (n + 1)) := by
    rw [h.cardData, ← BitVec.shiftLeft_add, Nat.mul_succ, Nat.add_assoc]
  have hrow : em4100DecodeRow s n =
      if n % 2 ≠ 0 then ⟨s.cardData <<< 5, 0, Function.update s.decodedData s.decodedDataIndex
        (s.decodedData s.decodedDataIndex ||| (s.value <<< 4 ||| em4100Nibble data n)),
        s.decodedDataIndex + 1⟩
      else { s with cardData := s.cardData <<< 5, value := s.value <<< 4 ||| em4100Nibble data n } := by
    rw [em4100DecodeRow, em4100DecodeRow_bits s.cardData 5 (Nat.le_refl 5), ← hnibble]
    rfl
  obtain ⟨i, rfl | rfl⟩ : ∃ i, n = 2 * i ∨ n = 2 * i + 1 := ⟨n / 2, by omega⟩
  · have heven : 2 * i % 2 = 0 := by omega
    have hhalf : (2 * i + 1) / 2 = 2 * i / 2 := by omega
    rw [hrow, if_neg (by simp)]
    refine ⟨hshift, ?_, fun j => ?_, ?_⟩
    · rw [h.value, if_pos heven, if_neg (by omega), Nat.add_sub_cancel]
      simp
    · rw [h.decodedData, hhalf]
    · rw [h.decodedDataIndex, hhalf]
  · have hindex : (2 * i + 1) / 2 = i := by omega
    have hnext : (2 * i + 1 + 1) / 2 = i + 1 := by omega
    have hvalue : s.value = em4100Nibble data (2 * i) := h.value.trans (if_neg (by omega))
    rw [hrow, if_pos (by omega)]
    refine ⟨hshift, ?_, fun j => ?_, ?_⟩
    · rw [if_pos (by omega)]
    · rw [hvalue, em4100Nibble_pair, h.decodedDataIndex, hindex, hnext]
      dsimp only
      rw [Function.update_apply, h.decodedData i, h.decodedData j, hindex, if_neg (Nat.lt_irrefl i)]
      by_cases hlast : j = i
      · rw [if_pos hlast, hlast, if_pos (Nat.lt_succ_self i)]
        exact BitVec.zero_or
      · rw [if_neg hlast]
        exact if_congr (by omega) rfl rfl
    · rw [h.decodedDataIndex, hindex, hnext]

/-- A frame is decoded to the card. -/
theorem em4100Decode_frame {i : Nat} (hi : i < 5) :
    em4100Decode (packed 64 (em4100Bit data) 64) i = data i := by
  have hheader (cardData : BitVec 64) (n : Nat) :
      (List.range n).foldl (fun (cardData : BitVec 64) _ => cardData <<< 1) cardData =
        cardData <<< n := by
    induction n with
    | zero => simp
    | succ n ih =>
      rw [List.range_succ, List.foldl_append, ih, List.foldl_cons, List.foldl_nil,
        ← BitVec.shiftLeft_add]
  have hrows (n : Nat) (hn : n ≤ 10) : Em4100Decoded data n ((List.range n).foldl em4100DecodeRow
      ⟨packed 64 (em4100Bit data) 64 <<< 9, 0, fun _ => 0, 0⟩) := by
    induction n with
    | zero => exact ⟨rfl, rfl, fun _ => rfl, rfl⟩
    | succ n ih =>
      rw [List.range_succ, List.foldl_append, List.foldl_cons, List.foldl_nil]
      exact (ih (Nat.le_of_succ_le hn)).succ data hn
  rw [em4100Decode, hheader, (hrows 10 (Nat.le_refl 10)).decodedData i, if_pos hi]

end FlipperZero
