import FlipperZero.Toolbox.BitBuffer

/-!
# Frames with parity bits

`bit_buffer_write_bytes_with_parity` packs each byte and its parity bit into a symbol of nine
bits, and `bit_buffer_copy_bytes_with_parity` unpacks them. The writer counts the bits in a
`uint16_t`, so it wraps around behind 7281 bytes.
-/

namespace FlipperZero

open Foundation

namespace BitBuffer

variable {buf : BitBuffer}

/-! ### Writing -/

/-- The first symbols of a stream are those of the buffer, and the last byte begun holds nothing
else. -/
structure Packed (buf : BitBuffer) (n : Nat) (stream : Memory) : Prop where
  data : ∀ j < n, ∀ k < 8, stream.bit (9 * j + k) = (buf.data j).getLsbD k
  parity : ∀ j < n, stream.bit (9 * j + 8) = buf.parity j
  clear : ∀ b, 9 * n ≤ b → b / 8 < (9 * n + 7) / 8 → stream.bit b = false

lemma packed_zero (buf : BitBuffer) (stream : Memory) : buf.Packed 0 stream where
  data := fun j hj => absurd hj (Nat.not_lt_zero j)
  parity := fun j hj => absurd hj (Nat.not_lt_zero j)
  clear := fun b _ hb => absurd hb (by omega)

/-- A stream that keeps the symbols written, and holds the next one behind them, is packed for one
more byte. -/
lemma Packed.succ {n : Nat} {stream stream' : Memory} (h : buf.Packed n stream)
    (hkeep : ∀ b < 9 * n, stream'.bit b = stream.bit b)
    (hdata : ∀ k < 8, stream'.bit (9 * n + k) = (buf.data n).getLsbD k)
    (hparity : stream'.bit (9 * n + 8) = buf.parity n)
    (hclear : ∀ b, 9 * (n + 1) ≤ b → b / 8 < (9 * (n + 1) + 7) / 8 → stream'.bit b = false) :
    buf.Packed (n + 1) stream' where
  data := by
    intro j hj k hk
    rcases Nat.lt_succ_iff_lt_or_eq.mp hj with hlt | rfl
    · rw [hkeep _ (by omega)]
      exact h.data j hlt k hk
    · exact hdata k hk
  parity := by
    intro j hj
    rcases Nat.lt_succ_iff_lt_or_eq.mp hj with hlt | rfl
    · rw [hkeep _ (by omega)]
      exact h.parity j hlt
    · exact hparity
  clear := hclear

lemma getLsbD_nextParBit (buf : BitBuffer) (i : Nat) {r k : Nat} (hk : k < 8) :
    (buf.nextParBit i <<< r).getLsbD k = (buf.parity i && decide (k = r)) := by
  rw [nextParBit]
  cases buf.parity i with
  | false => simp
  | true =>
    have hiff : k = r ↔ k - r = 0 ∧ ¬ k < r := by omega
    rw [if_pos rfl, BitVec.getLsbD_shiftLeft]
    by_cases h : k < r <;> simp [hk, h, hiff]

lemma bit_writeSymbol_aligned (buf : BitBuffer) {n p : Nat} (h : p % 8 = 0) (hp : p + 9 < 65536) (stream : Memory)
    (b : Nat) :
    Memory.bit (buf.writeSymbol (stream, p) n).1 b =
      if b / 8 = p / 8 + 1 then buf.parity n && decide (b % 8 = 0)
      else if b / 8 = p / 8 then (buf.data n).getLsbD (b % 8)
      else stream.bit b := by
  have hnext : (p + 8) % 65536 / 8 = p / 8 + 1 := by omega
  have hpar := getLsbD_nextParBit buf n (r := 0) (Nat.mod_lt b (Nat.succ_pos 7))
  rw [BitVec.shiftLeft_zero] at hpar
  simp only [writeSymbol, if_pos h, hnext, Memory.bit, Function.update_apply]
  split_ifs with hsecond hfirst
  · exact hpar
  · rfl
  · rfl

lemma bit_writeSymbol_straddling (buf : BitBuffer) {n p : Nat} (h : p % 8 ≠ 0) (stream : Memory) (b : Nat) :
    Memory.bit (buf.writeSymbol (stream, p) n).1 b =
      if b / 8 = p / 8 + 1 then
        (buf.data n).getLsbD (8 - p % 8 + b % 8) || (buf.parity n && decide (b % 8 = p % 8))
      else if b / 8 = p / 8 then
        stream.bit b || (!decide (b % 8 < p % 8) && (buf.data n).getLsbD (b % 8 - p % 8))
      else stream.bit b := by
  have hlt : b % 8 < 8 := Nat.mod_lt b (Nat.succ_pos 7)
  simp only [writeSymbol, if_neg h, Memory.bit, Function.update_apply]
  split_ifs with hsecond hfirst
  · rw [BitVec.getLsbD_or, BitVec.getLsbD_ushiftRight, getLsbD_nextParBit buf _ hlt]
  · rw [BitVec.getLsbD_or, BitVec.getLsbD_shiftLeft, decide_eq_true hlt, Bool.true_and, hfirst]
  · rfl

/-- A symbol is written behind the others, whether it starts with a byte or inside one. -/
lemma Packed.writeSymbol {n : Nat} {stream : Memory} (h : buf.Packed n stream)
    (hn : 9 * n + 9 < 65536) :
    buf.Packed (n + 1) (buf.writeSymbol (stream, 9 * n) n).1 := by
  by_cases haligned : 9 * n % 8 = 0
  · have hbit := bit_writeSymbol_aligned buf (n := n) haligned hn stream
    apply h.succ
    · intro b hb
      rw [hbit, if_neg (by omega), if_neg (by omega)]
    · intro k hk
      have hmod : (9 * n + k) % 8 = k := by omega
      rw [hbit, if_neg (by omega), if_pos (by omega), hmod]
    · rw [hbit, if_pos (by omega), decide_eq_true (by omega), Bool.and_true]
    · intro b hb hend
      rw [hbit, if_pos (by omega), decide_eq_false (by omega), Bool.and_false]
  · have hbit := bit_writeSymbol_straddling buf (n := n) haligned stream
    apply h.succ
    · intro b hb
      rw [hbit, if_neg (by omega)]
      split_ifs with hbyte
      · rw [decide_eq_true (by omega), Bool.not_true, Bool.false_and, Bool.or_false]
      · rfl
    · intro k hk
      rw [hbit]
      by_cases hbyte : k < 8 - 9 * n % 8
      · have hold := h.clear (9 * n + k) (by omega) (by omega)
        have hidx : (9 * n + k) % 8 - 9 * n % 8 = k := by omega
        rw [if_neg (by omega), if_pos (by omega), hold, decide_eq_false (by omega), Bool.not_false,
          Bool.true_and, Bool.false_or, hidx]
      · have hidx : 8 - 9 * n % 8 + (9 * n + k) % 8 = k := by omega
        rw [if_pos (by omega), hidx, decide_eq_false (by omega), Bool.and_false, Bool.or_false]
    · have hout : (buf.data n).getLsbD (8 - 9 * n % 8 + (9 * n + 8) % 8) = false :=
        BitVec.getLsbD_of_ge _ _ (by omega)
      rw [hbit, if_pos (by omega), hout, decide_eq_true (by omega), Bool.false_or, Bool.and_true]
    · intro b hb hend
      have hout : (buf.data n).getLsbD (8 - 9 * n % 8 + b % 8) = false :=
        BitVec.getLsbD_of_ge _ _ (by omega)
      rw [hbit, if_pos (by omega), hout, decide_eq_false (by omega), Bool.and_false, Bool.or_false]

lemma writeSymbol_pos (stream : Memory) (p n : Nat) :
    (buf.writeSymbol (stream, p) n).2 = (p + 9) % 65536 := by
  rw [BitBuffer.writeSymbol]
  split_ifs
  · simp only
    omega
  · rfl

/-- The position counts the bits, as far as a `uint16_t` does. -/
lemma foldl_writeSymbol_pos (buf : BitBuffer) (dest : Memory) (n : Nat) :
    ((List.range n).foldl buf.writeSymbol (dest, 0)).2 = 9 * n % 65536 := by
  induction n with
  | zero => rfl
  | succ n ih =>
    rw [List.range_succ, List.foldl_append, List.foldl_cons, List.foldl_nil, ← Prod.mk.eta
      (p := (List.range n).foldl buf.writeSymbol (dest, 0)), writeSymbol_pos, ih]
    omega

/-- While the count does not wrap around, every symbol is written. -/
lemma packed_foldl_writeSymbol (buf : BitBuffer) (dest : Memory) {n : Nat} (hn : 9 * n < 65536) :
    buf.Packed n ((List.range n).foldl buf.writeSymbol (dest, 0)).1 := by
  induction n with
  | zero => exact packed_zero buf dest
  | succ n ih =>
    have hpos := foldl_writeSymbol_pos buf dest n
    rw [Nat.mod_eq_of_lt (by omega)] at hpos
    rw [List.range_succ, List.foldl_append, List.foldl_cons, List.foldl_nil, ← Prod.mk.eta
      (p := (List.range n).foldl buf.writeSymbol (dest, 0)), hpos]
    exact (ih (by omega)).writeSymbol (by omega)

/-! ### Reading -/

/-- The first bytes and their parity bits are those of the symbols of a stream, and the parity
bits of the rest of the last eight bytes are clear. -/
structure Unpacked (stream : Memory) (n : Nat) (buf : BitBuffer) : Prop where
  data : ∀ j < n, ∀ k < 8, (buf.data j).getLsbD k = stream.bit (9 * j + k)
  parity : ∀ j < n, buf.parity j = stream.bit (9 * j + 8)
  clear : ∀ j, n ≤ j → j < 8 * ((n + 7) / 8) → buf.parity j = false

lemma unpacked_zero (stream : Memory) (buf : BitBuffer) : Unpacked stream 0 buf where
  data := fun j hj => absurd hj (Nat.not_lt_zero j)
  parity := fun j hj => absurd hj (Nat.not_lt_zero j)
  clear := fun j _ hj => absurd hj (by simp)

lemma storeParity_self {parity : Nat → Bool} {n : Nat} (bit : Bool)
    (h : n % 8 ≠ 0 → parity n = false) : storeParity parity n bit n = bit := by
  rw [storeParity, if_pos rfl]
  split_ifs with hfirst
  · rfl
  · rw [h hfirst, Bool.false_or]

lemma storeParity_of_lt {parity : Nat → Bool} {n j : Nat} (bit : Bool) (hj : j < n) :
    storeParity parity n bit j = parity j := by
  rw [storeParity, if_neg (Nat.ne_of_lt hj), if_neg fun h => Nat.lt_asymm hj h.2.1]

lemma clear_storeParity {parity : Nat → Bool} {n : Nat} (bit : Bool)
    (h : ∀ j, n ≤ j → j < 8 * ((n + 7) / 8) → parity j = false) {j : Nat} (hj : n + 1 ≤ j)
    (hend : j < 8 * ((n + 1 + 7) / 8)) : storeParity parity n bit j = false := by
  rw [storeParity, if_neg (by omega)]
  split_ifs with hfirst
  · rfl
  · exact h j (by omega) (by omega)

lemma Unpacked.copySymbol {stream : Memory} {n : Nat} (h : Unpacked stream n buf) :
    Unpacked stream (n + 1) (buf.copySymbol stream n) where
  data := by
    intro j hj k hk
    simp only [BitBuffer.copySymbol]
    rcases Nat.lt_succ_iff_lt_or_eq.mp hj with hlt | rfl
    · rw [Function.update_of_ne (Nat.ne_of_lt hlt)]
      exact h.data j hlt k hk
    · rw [Function.update_self]
      exact stream.getLsbD_shifted (9 * j) hk
  parity := by
    intro j hj
    simp only [BitBuffer.copySymbol]
    rcases Nat.lt_succ_iff_lt_or_eq.mp hj with hlt | rfl
    · rw [storeParity_of_lt _ hlt]
      exact h.parity j hlt
    · have hbyte : (9 * j + 8) / 8 = 9 * j / 8 + 1 := by omega
      have hmod : (9 * j + 8) % 8 = 9 * j % 8 := Nat.add_mod_right _ _
      rw [storeParity_self _ fun hne => h.clear j (Nat.le_refl j) (by omega), Memory.bit, hbyte,
        hmod]
  clear := fun _ hj hend => clear_storeParity _ h.clear hj hend

lemma unpacked_foldl_copySymbol (buf : BitBuffer) (stream : Memory) (n : Nat) :
    Unpacked stream n ((List.range n).foldl (BitBuffer.copySymbol stream) buf) := by
  induction n with
  | zero => exact unpacked_zero stream buf
  | succ n ih =>
    rw [List.range_succ, List.foldl_append, List.foldl_cons, List.foldl_nil]
    exact ih.copySymbol

/-! ### Writing and reading -/

/-- Two buffers hold the same whole bytes with the same parity bits. -/
def SameFrame (buf buf' : BitBuffer) : Prop :=
  buf'.sizeBits = buf.sizeBits ∧
    ∀ i < buf.getSizeBytes, buf'.data i = buf.data i ∧ buf'.parity i = buf.parity i

def ReadsBack (buf : BitBuffer) (dest : Memory) (sizeBytes : Nat) (target : BitBuffer) : Prop :=
  ∃ stream bits, buf.writeBytesWithParity dest sizeBytes = some (stream, bits) ∧
    ∃ buf', target.copyBytesWithParity stream bits = some buf' ∧ buf.SameFrame buf'

lemma Unpacked.sameFrame {stream : Memory} {buf' : BitBuffer} {n : Nat}
    (h : Unpacked stream n buf') (hpacked : buf.Packed n stream) (hn : buf.getSizeBytes = n)
    (hsize : buf'.sizeBits = buf.sizeBits) : buf.SameFrame buf' := by
  subst hn
  refine ⟨hsize, ?_⟩
  intro i hi
  constructor
  · apply BitVec.eq_of_getLsbD_eq
    intro k hk
    rw [h.data i hi k hk, hpacked.data i hi k hk]
  · rw [h.parity i hi, hpacked.parity i hi]

lemma copyBytesWithParity_symbols (target : BitBuffer) (stream : Memory) {n : Nat} (hn : n ≠ 0) :
    ∃ buf', target.copyBytesWithParity stream (9 * n) = some buf' ∧ buf'.sizeBits = n * 8 ∧
      Unpacked stream n buf' := by
  have hge : ¬ 9 * n < 9 := by omega
  have hread := unpacked_foldl_copySymbol target stream n
  rw [copyBytesWithParity, if_neg hge, if_pos (Nat.mul_mod_right 9 n), Nat.mul_div_cancel_left n
    (Nat.succ_pos 8)]
  exact ⟨_, rfl, rfl, hread.data, hread.parity, hread.clear⟩

lemma copyBytesWithParity_zero (target : BitBuffer) (stream : Memory) :
    ∃ buf', target.copyBytesWithParity stream 0 = some buf' ∧ buf'.sizeBits = 0 :=
  ⟨_, rfl, rfl⟩

/-- What the reader makes of a count that wrapped around is too short. -/
lemma copyBytesWithParity_short {target buf' : BitBuffer} {stream : Memory} {bits : Nat}
    (hbits : bits < 65536) (h : target.copyBytesWithParity stream bits = some buf') :
    buf'.sizeBits ≤ 58248 := by
  rw [copyBytesWithParity] at h
  split_ifs at h
  · obtain rfl := Option.some.inj h
    simp only
    omega
  · obtain rfl := Option.some.inj h
    simp only
    omega

lemma sizeBits_of_whole (hwhole : buf.sizeBits % 8 = 0) : buf.sizeBits = buf.getSizeBytes * 8 := by
  rw [getSizeBytes, if_pos hwhole, Nat.add_zero, Nat.div_mul_cancel (Nat.dvd_of_mod_eq_zero hwhole)]

lemma ReadsBack.short {dest : Memory} {sizeBytes : Nat} {target : BitBuffer}
    (hwhole : buf.sizeBits % 8 = 0) (h : buf.ReadsBack dest sizeBytes target) :
    buf.getSizeBytes ≤ 7281 := by
  obtain ⟨stream, bits, hwrite, buf', hread, hsame, -⟩ := h
  simp only [writeBytesWithParity, Option.ite_none_right_eq_some, Option.some.injEq] at hwrite
  have hbits : bits = 9 * buf.getSizeBytes % 65536 := by
    rw [← foldl_writeSymbol_pos buf dest, hwrite.2]
  have hshort := copyBytesWithParity_short (by omega) hread
  rw [hsame, sizeBits_of_whole hwhole] at hshort
  omega

lemma readsBack_of_short {dest : Memory} {sizeBytes : Nat} {target : BitBuffer}
    (hwhole : buf.sizeBits % 8 = 0) (hroom : (buf.getSizeBytes * 9 + 8) / 8 ≤ sizeBytes)
    (hn : buf.getSizeBytes ≤ 7281) : buf.ReadsBack dest sizeBytes target := by
  have hpos := foldl_writeSymbol_pos buf dest buf.getSizeBytes
  rw [Nat.mod_eq_of_lt (by omega)] at hpos
  have hpacked := packed_foldl_writeSymbol buf dest (n := buf.getSizeBytes) (by omega)
  refine ⟨_, _, if_pos hroom, ?_⟩
  rw [hpos]
  by_cases hzero : buf.getSizeBytes = 0
  · rw [hzero]
    obtain ⟨buf', hread, hempty⟩ := copyBytesWithParity_zero target
      ((List.range 0).foldl buf.writeSymbol (dest, 0)).1
    refine ⟨buf', hread, ?_, ?_⟩
    · rw [hempty, sizeBits_of_whole hwhole, hzero]
    · intro i hi
      exact absurd hi (by omega)
  · obtain ⟨buf', hread, hsize, hunpacked⟩ := copyBytesWithParity_symbols target
      ((List.range buf.getSizeBytes).foldl buf.writeSymbol (dest, 0)).1 hzero
    exact ⟨buf', hread,
      hunpacked.sameFrame hpacked rfl (hsize.trans (sizeBits_of_whole hwhole).symm)⟩

/-- A frame of whole bytes is read back, with every parity bit, if and only if it has at most 7281
bytes. -/
theorem readsBack_iff {dest : Memory} {sizeBytes : Nat} {target : BitBuffer}
    (hwhole : buf.sizeBits % 8 = 0) (hroom : (buf.getSizeBytes * 9 + 8) / 8 ≤ sizeBytes) :
    buf.ReadsBack dest sizeBytes target ↔ buf.getSizeBytes ≤ 7281 := by
  constructor
  · intro h
    exact h.short hwhole
  · intro hn
    exact readsBack_of_short hwhole hroom hn

/-- Two bytes, the parity bit of the second one set. -/
theorem readsBack_two :
    BitBuffer.ReadsBack { ofBytes [0x12, 0x34] with parity := fun i => i == 1 } (fun _ => 0xFF) 3
      (alloc 2) :=
  (readsBack_iff rfl (by decide)).mpr (by decide)

/-- The symbols of 7282 bytes are 65538 bits, and the reader is told of two. -/
theorem not_readsBack_long :
    ¬ BitBuffer.ReadsBack { alloc 7282 with sizeBits := 58256 } (fun _ => 0) 8193 (alloc 7282) := by
  intro h
  have hshort := h.short rfl
  exact absurd hshort (by decide)

end BitBuffer

end FlipperZero
