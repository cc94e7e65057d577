import FlipperZero.Toolbox.BitBuffer
import FlipperZero.Foundation.System

/-!
# Appending to a bit buffer

`bit_buffer_append_bit` writes a one by an or and a zero not at all, so it relies on the bit
behind the size. The appenders of bytes place their data at the first whole byte behind the size,
but only `bit_buffer_append_byte` rounds the size up as well.
-/

namespace FlipperZero

open Foundation

namespace BitBuffer

/-! ### Runs of calls -/

/-- The calls that change a bit buffer. -/
inductive Call where
  | reset
  | copy (other : BitBuffer)
  | copyRight (other : BitBuffer) (startIndex : Nat)
  | copyLeft (other : BitBuffer) (endIndex : Nat)
  | copyBytes (bytes : List (BitVec 8))
  | copyBits (data : Memory) (sizeBits : Nat)
  | copyBytesWithParity (data : Memory) (sizeBits : Nat)
  | setByte (index : Nat) (byte : BitVec 8)
  | setByteWithParity (index : Nat) (byte : BitVec 8) (bit : Bool)
  | setSize (newSize : Nat)
  | setSizeBytes (newSizeBytes : Nat)
  | append (other : BitBuffer)
  | appendRight (other : BitBuffer) (startIndex : Nat)
  | appendByte (byte : BitVec 8)
  | appendBytes (bytes : List (BitVec 8))
  | appendBit (bit : Bool)

/-- A call whose checks pass. A frame with parity bits that is longer than the array has no check
of its own, and writes behind it. -/
def call (buf : BitBuffer) : Call → Option BitBuffer
  | .reset                         => some buf.reset
  | .copy other                    => buf.copy other
  | .copyRight other startIndex    => buf.copyRight other startIndex
  | .copyLeft other endIndex       => buf.copyLeft other endIndex
  | .copyBytes bytes               => buf.copyBytes bytes
  | .copyBits data sizeBits        => buf.copyBits data sizeBits
  | .copyBytesWithParity data sizeBits =>
    if sizeBits < 9 ∨ sizeBits / 9 ≤ buf.capacityBytes then buf.copyBytesWithParity data sizeBits
    else none
  | .setByte index byte            => buf.setByte index byte
  | .setByteWithParity index byte bit => buf.setByteWithParity index byte bit
  | .setSize newSize               => buf.setSize newSize
  | .setSizeBytes newSizeBytes     => buf.setSizeBytes newSizeBytes
  | .append other                  => buf.append other
  | .appendRight other startIndex  => buf.appendRight other startIndex
  | .appendByte byte               => buf.appendByte byte
  | .appendBytes bytes             => buf.appendBytes bytes
  | .appendBit bit                 => buf.appendBit bit

def calls : System BitBuffer Call where
  step := call

/-! ### The bits behind the size -/

def CleanTail (buf : BitBuffer) : Prop := ∀ i, buf.sizeBits ≤ i → buf.data.bit i = false

lemma cleanTail_alloc (capacityBytes : Nat) : (alloc capacityBytes).CleanTail := by
  intro i _
  simp [alloc, Memory.bit]

/-- The calls that write whole bytes and do not make the buffer smaller, unless they clear it. -/
def WritesWholeBytes (buf : BitBuffer) : Call → Prop
  | .reset                      => True
  | .copy other                 => other.sizeBits % 8 = 0 ∧ buf.sizeBits ≤ other.sizeBits
  | .copyRight other startIndex =>
    other.sizeBits % 8 = 0 ∧ buf.sizeBits ≤ other.sizeBits - startIndex * 8
  | .copyLeft _ endIndex        => buf.sizeBits ≤ endIndex * 8
  | .copyBytes bytes            => buf.sizeBits ≤ bytes.length * 8
  | .copyBits _ sizeBits        => sizeBits % 8 = 0 ∧ buf.sizeBits ≤ sizeBits
  | .copyBytesWithParity _ sizeBits => 9 ≤ sizeBits ∧ buf.sizeBits ≤ sizeBits / 9 * 8
  | .setByte _ _                => buf.sizeBits % 8 = 0
  | .setByteWithParity _ _ _    => True
  | .setSize newSize            => buf.sizeBits ≤ newSize
  | .setSizeBytes newSizeBytes  => buf.sizeBits ≤ newSizeBytes * 8
  | .append other               => buf.sizeBits % 8 = 0 ∧ other.sizeBits % 8 = 0
  | .appendRight other _        => buf.sizeBits % 8 = 0 ∧ other.sizeBits % 8 = 0
  | .appendByte _               => True
  | .appendBytes _              => buf.sizeBits % 8 = 0
  | .appendBit _                => True

variable {buf buf' : BitBuffer}

lemma getSizeBytes_whole (h : buf.sizeBits % 8 = 0) : buf.sizeBits = 8 * buf.getSizeBytes := by
  rw [getSizeBytes, if_pos h, Nat.add_zero, Nat.mul_div_cancel' (Nat.dvd_of_mod_eq_zero h)]

lemma sizeBits_le (buf : BitBuffer) : buf.sizeBits ≤ 8 * buf.getSizeBytes := by
  rw [getSizeBytes]
  split_ifs <;> omega

lemma CleanTail.of_agree (h : buf.CleanTail) (hsize : buf.sizeBits ≤ buf'.sizeBits)
    (hdata : ∀ i, buf'.sizeBits ≤ 8 * i + 7 → buf'.data i = buf.data i) : buf'.CleanTail := by
  intro i hi
  have hbyte : buf'.data (i / 8) = buf.data (i / 8) := hdata _ (by omega)
  rw [Memory.bit_congr hbyte]
  exact h i (Nat.le_trans hsize hi)

lemma CleanTail.of_copy {a : Nat} {bytes : List (BitVec 8)} (h : buf.CleanTail)
    (hsize : buf.sizeBits ≤ buf'.sizeBits) (hdata : buf'.data = buf.data.copy a bytes)
    (hend : 8 * (a + bytes.length) ≤ buf'.sizeBits) : buf'.CleanTail := by
  apply h.of_agree hsize
  intro i hi
  rw [hdata]
  exact Memory.copy_of_ge (by omega)

lemma CleanTail.of_update {a : Nat} {byte : BitVec 8} (h : buf.CleanTail)
    (hsize : buf.sizeBits ≤ buf'.sizeBits) (hdata : buf'.data = Function.update buf.data a byte)
    (hend : 8 * (a + 1) ≤ buf'.sizeBits) : buf'.CleanTail := by
  apply h.of_agree hsize
  intro i hi
  rw [hdata]
  exact Function.update_of_ne (by omega) _ _

lemma foldl_copySymbol_data_of_ge (data : Memory) {n i : Nat} (hi : n ≤ i) :
    ((List.range n).foldl (copySymbol data) buf).data i = buf.data i := by
  induction n with
  | zero => rfl
  | succ n ih =>
    rw [List.range_succ, List.foldl_append]
    simp only [List.foldl_cons, List.foldl_nil, copySymbol]
    rw [Function.update_of_ne (by omega), ih (by omega)]

lemma appendRight_cleanTail {other : BitBuffer} {startIndex : Nat} (h : buf.CleanTail)
    (hwhole : buf.sizeBits % 8 = 0 ∧ other.sizeBits % 8 = 0)
    (hcall : buf.appendRight other startIndex = some buf') : buf'.CleanTail := by
  simp only [appendRight, Option.ite_none_right_eq_some, Option.some.injEq] at hcall
  obtain ⟨⟨hstart, -⟩, rfl⟩ := hcall
  have hbuf := getSizeBytes_whole hwhole.1
  have hother := getSizeBytes_whole hwhole.2
  have hfits : startIndex * 8 ≤ buf.sizeBits + other.sizeBits := by omega
  refine h.of_copy ?_ rfl ?_
  · simp only [if_pos hfits]
    omega
  · simp only [if_pos hfits, length_bytes]
    omega

/-! ### Appending a bit -/

/-- A bit is appended: the size grows by one, the new last bit is the one given, and no bit in
front of it changes. -/
def AppendsBit (buf : BitBuffer) (bit : Bool) (buf' : BitBuffer) : Prop :=
  buf'.sizeBits = buf.sizeBits + 1 ∧ buf'.data.bit buf.sizeBits = bit ∧
    ∀ i < buf.sizeBits, buf'.data.bit i = buf.data.bit i

lemma sizeBits_appendBit {bit : Bool} (h : buf.appendBit bit = some buf') :
    buf'.sizeBits = buf.sizeBits + 1 := by
  simp only [appendBit, Option.ite_none_right_eq_some, Option.some.injEq] at h
  obtain ⟨-, rfl⟩ := h
  rfl

lemma bit_update_or (mem : Memory) (n i : Nat) :
    Memory.bit (Function.update mem (n / 8) (mem (n / 8) ||| 1#8 <<< (n % 8))) i =
      (mem.bit i || decide (i = n)) := by
  by_cases hbyte : i / 8 = n / 8
  · have hi : i = 8 * (n / 8) + i % 8 := by omega
    have hlt : i % 8 < 8 := Nat.mod_lt i (by decide)
    have hmem : mem.bit i = (mem (n / 8)).getLsbD (i % 8) := by rw [Memory.bit, hbyte]
    have hone : (1#8 <<< (n % 8)).getLsbD (i % 8) = decide (i = n) := by
      have hiff : i = n ↔ i % 8 - n % 8 = 0 ∧ ¬ i % 8 < n % 8 := by omega
      rw [BitVec.getLsbD_shiftLeft, BitVec.getLsbD_one]
      by_cases h : i % 8 < n % 8 <;> simp [hlt, h, hiff]
    rw [hmem, ← hone, ← BitVec.getLsbD_or, hi, Memory.bit_update_self hlt, ← hi]
  · have hne : i ≠ n := fun h => hbyte (congrArg (· / 8) h)
    rw [Memory.bit_update_of_ne hbyte, decide_eq_false hne, Bool.or_false]

lemma bit_appendBit {bit : Bool} (h : buf.appendBit bit = some buf') (i : Nat) :
    buf'.data.bit i = (buf.data.bit i || (bit && decide (i = buf.sizeBits))) := by
  simp only [appendBit, Option.ite_none_right_eq_some, Option.some.injEq] at h
  obtain ⟨-, rfl⟩ := h
  cases bit with
  | true => exact bit_update_or buf.data buf.sizeBits i
  | false => simp

lemma appendsBit_iff {bit : Bool} (h : buf.appendBit bit = some buf') :
    AppendsBit buf bit buf' ↔ bit = true ∨ buf.data.bit buf.sizeBits = false := by
  have hlast := bit_appendBit h buf.sizeBits
  rw [decide_eq_true rfl, Bool.and_true] at hlast
  constructor
  · rintro ⟨-, hbit, -⟩
    rw [hlast] at hbit
    cases bit with
    | true => exact .inl rfl
    | false => exact .inr (by simpa using hbit)
  · intro hbit
    refine ⟨sizeBits_appendBit h, ?_, ?_⟩
    · rw [hlast]
      rcases hbit with rfl | hzero
      · exact Bool.or_true _
      · rw [hzero, Bool.false_or]
    · intro i hi
      rw [bit_appendBit h, decide_eq_false (Nat.ne_of_lt hi), Bool.and_false, Bool.or_false]

lemma CleanTail.call (h : buf.CleanTail) {c : Call} (hc : buf.WritesWholeBytes c)
    (hcall : buf.call c = some buf') : buf'.CleanTail := by
  cases c with
  | reset =>
    obtain rfl := Option.some.inj hcall
    exact cleanTail_alloc _
  | copy other =>
    simp only [BitBuffer.call, BitBuffer.copy, Option.ite_none_right_eq_some, Option.some.injEq]
      at hcall
    obtain ⟨-, rfl⟩ := hcall
    refine h.of_copy hc.2 rfl ?_
    rw [length_bytes, Nat.zero_add, ← getSizeBytes_whole hc.1]
  | copyRight other startIndex =>
    simp only [BitBuffer.call, copyRight, Option.ite_none_right_eq_some, Option.some.injEq]
      at hcall
    obtain ⟨⟨hstart, -⟩, rfl⟩ := hcall
    have hwhole := getSizeBytes_whole hc.1
    refine h.of_copy hc.2 rfl ?_
    simp only [length_bytes]
    omega
  | copyLeft other endIndex =>
    simp only [BitBuffer.call, copyLeft, Option.ite_none_right_eq_some, Option.some.injEq] at hcall
    obtain ⟨-, rfl⟩ := hcall
    refine h.of_copy hc rfl ?_
    simp [Nat.mul_comm]
  | copyBytes bytes =>
    simp only [BitBuffer.call, copyBytes, Option.ite_none_right_eq_some, Option.some.injEq] at hcall
    obtain ⟨-, rfl⟩ := hcall
    refine h.of_copy hc rfl ?_
    simp [Nat.mul_comm]
  | copyBits data sizeBits =>
    simp only [BitBuffer.call, copyBits, Option.ite_none_right_eq_some, Option.some.injEq] at hcall
    obtain ⟨-, rfl⟩ := hcall
    have hwhole := hc.1
    refine h.of_copy hc.2 rfl ?_
    simp only [List.length_map, List.length_range]
    omega
  | copyBytesWithParity data sizeBits =>
    simp only [BitBuffer.call, copyBytesWithParity, if_neg (Nat.not_lt.mpr hc.1),
      Option.ite_none_right_eq_some, Option.some.injEq] at hcall
    obtain ⟨-, -, rfl⟩ := hcall
    apply h.of_agree hc.2
    intro i hi
    exact foldl_copySymbol_data_of_ge data (by simp only at hi; omega)
  | setByte index byte =>
    simp only [BitBuffer.call, setByte, Option.ite_none_right_eq_some, Option.some.injEq] at hcall
    obtain ⟨hindex, rfl⟩ := hcall
    have hwhole := getSizeBytes_whole hc
    exact h.of_update (Nat.le_refl _) rfl (by simp only; omega)
  | setByteWithParity index byte bit =>
    simp only [BitBuffer.call, setByteWithParity, Option.ite_none_right_eq_some,
      Option.some.injEq] at hcall
    obtain ⟨hindex, rfl⟩ := hcall
    exact h.of_update (Nat.le_refl _) rfl (by simp only; omega)
  | setSize newSize =>
    simp only [BitBuffer.call, setSize, Option.ite_none_right_eq_some, Option.some.injEq] at hcall
    obtain ⟨-, rfl⟩ := hcall
    exact h.of_agree hc fun _ _ => rfl
  | setSizeBytes newSizeBytes =>
    simp only [BitBuffer.call, setSizeBytes, Option.ite_none_right_eq_some, Option.some.injEq]
      at hcall
    obtain ⟨-, rfl⟩ := hcall
    exact h.of_agree hc fun _ _ => rfl
  | append other => exact appendRight_cleanTail h hc hcall
  | appendRight other startIndex => exact appendRight_cleanTail h hc hcall
  | appendByte byte =>
    simp only [BitBuffer.call, appendByte, Option.ite_none_right_eq_some, Option.some.injEq]
      at hcall
    obtain ⟨-, rfl⟩ := hcall
    have hsize := sizeBits_le buf
    exact h.of_update (by simp only; omega) rfl (by simp only; omega)
  | appendBytes bytes =>
    simp only [BitBuffer.call, appendBytes, Option.ite_none_right_eq_some, Option.some.injEq]
      at hcall
    obtain ⟨-, rfl⟩ := hcall
    have hwhole := getSizeBytes_whole hc
    exact h.of_copy (by simp only; omega) rfl (by simp only; omega)
  | appendBit bit =>
    intro i hi
    rw [sizeBits_appendBit hcall] at hi
    rw [bit_appendBit hcall, h i (by omega), decide_eq_false (by omega), Bool.and_false,
      Bool.or_false]

/-- In a run whose calls all write whole bytes, no bit behind the size is ever set. -/
theorem cleanTail_of_reaches {capacityBytes : Nat}
    (hrun : calls.Reaches WritesWholeBytes (alloc capacityBytes) buf) : buf.CleanTail :=
  hrun.invariant (cleanTail_alloc capacityBytes) fun _ _ _ h hc hcall => h.call hc hcall

/-- A bit that is appended reads back if and only if it is a one or the bit behind the size is
zero already; and that is so in every state of a run whose calls all write whole bytes. -/
theorem appendBit_appendsBit {bit : Bool} (h : buf.appendBit bit = some buf') :
    (AppendsBit buf bit buf' ↔ bit = true ∨ buf.data.bit buf.sizeBits = false) ∧
      ∀ capacityBytes, calls.Reaches WritesWholeBytes (alloc capacityBytes) buf →
        AppendsBit buf bit buf' := by
  have hiff := appendsBit_iff h
  refine ⟨hiff, ?_⟩
  intro capacityBytes hrun
  apply hiff.mpr
  exact .inr (cleanTail_of_reaches hrun _ (Nat.le_refl _))

/-- The zero bit of a new buffer. -/
theorem appendBit_appendsBit_alloc :
    ∃ buf, (alloc 1).appendBit false = some buf ∧ AppendsBit (alloc 1) false buf :=
  ⟨_, rfl, (appendBit_appendsBit rfl).1.mpr (.inr rfl)⟩

/-- The byte `0xFF` is copied in and the size set back to zero: a zero bit that is appended then
reads as a one. -/
theorem appendBit_stale :
    ∃ buf buf', calls.Reaches (fun _ _ => True) (alloc 1) buf ∧
      buf.appendBit false = some buf' ∧ ¬ AppendsBit buf false buf' := by
  have hcopied : calls.Reaches (fun _ _ => True) (alloc 1) _ :=
    .step (e := .copyBytes [0xFF]) .refl trivial rfl
  have hshrunk : calls.Reaches (fun _ _ => True) (alloc 1) _ :=
    hcopied.step (e := .setSize 0) trivial rfl
  refine ⟨_, _, hshrunk, rfl, ?_⟩
  rintro ⟨-, hbit, -⟩
  exact absurd hbit (by decide)

/-! ### Appending bytes -/

def appendEach (buf : BitBuffer) (bytes : List (BitVec 8)) : Option BitBuffer :=
  bytes.foldlM appendByte buf

def Holds (other : BitBuffer) (bytes : List (BitVec 8)) : Prop :=
  other.sizeBits = bytes.length * 8 ∧ other.bytes 0 bytes.length = bytes

lemma getSizeBytes_of_whole {n : Nat} (h : buf.sizeBits = n * 8) : buf.getSizeBytes = n := by
  simp [getSizeBytes, h]

lemma append_eq_appendBytes {other : BitBuffer} {bytes : List (BitVec 8)}
    (h : other.Holds bytes) : buf.append other = buf.appendBytes bytes := by
  have hsize : other.getSizeBytes = bytes.length := getSizeBytes_of_whole h.1
  simp only [append, appendRight, appendBytes, hsize, h.1, h.2, Nat.zero_le, true_and, Nat.zero_mul,
    Nat.sub_zero, if_true]

/-- One byte after the other: the size is rounded up with the first of them. -/
lemma appendEach_cons (byte : BitVec 8) (bytes : List (BitVec 8)) :
    buf.appendEach (byte :: bytes) =
      if buf.getSizeBytes + (bytes.length + 1) ≤ buf.capacityBytes then
        some { buf with
          data := buf.data.copy buf.getSizeBytes (byte :: bytes)
          sizeBits := (buf.getSizeBytes + (bytes.length + 1)) * 8 }
      else none := by
  induction bytes generalizing buf byte with
  | nil => simp [appendEach, appendByte, Memory.copy_cons]
  | cons next bytes ih =>
    have hfold : buf.appendEach (byte :: next :: bytes) =
        (buf.appendByte byte).bind fun b => b.appendEach (next :: bytes) := rfl
    rw [hfold, appendByte]
    by_cases hroom : buf.getSizeBytes + 1 ≤ buf.capacityBytes
    · rw [if_pos hroom, Option.bind_some, ih, getSizeBytes_of_whole rfl, Memory.copy_cons _ _ byte,
        List.length_cons]
      simp only [Nat.add_assoc, Nat.add_comm 1]
    · have hnone : ¬ buf.getSizeBytes + ((next :: bytes).length + 1) ≤ buf.capacityBytes := by
        omega
      rw [if_neg hroom, if_neg hnone, Option.bind_none]

/-- Bytes that are appended at once, as a buffer and one at a time give the same buffer if and
only if there are none, or the buffer holds whole bytes. Without room for them, each appender
stops at its check. -/
theorem appendBytes_append_appendEach_iff {other : BitBuffer} {bytes : List (BitVec 8)}
    (h : other.Holds bytes) :
    (buf.append other = buf.appendBytes bytes ∧ buf.appendEach bytes = buf.appendBytes bytes) ↔
      if bytes = [] then buf.getSizeBytes ≤ buf.capacityBytes
      else buf.sizeBits % 8 = 0 ∨ buf.capacityBytes < buf.getSizeBytes + bytes.length := by
  rw [append_eq_appendBytes h, eq_self_iff_true, true_and]
  cases bytes with
  | nil =>
    rw [if_pos rfl]
    simp [appendEach, appendBytes]
  | cons byte bytes =>
    rw [if_neg (List.cons_ne_nil _ _), appendEach_cons, appendBytes, List.length_cons]
    by_cases hroom : buf.getSizeBytes + (bytes.length + 1) ≤ buf.capacityBytes
    · rw [if_pos hroom, if_pos hroom, or_iff_left (Nat.not_lt.mpr hroom)]
      have hsize : (buf.getSizeBytes + (bytes.length + 1)) * 8 =
          buf.sizeBits + (bytes.length + 1) * 8 ↔ buf.sizeBits % 8 = 0 := by
        rw [getSizeBytes]
        split_ifs <;> omega
      rw [← hsize]
      simp
    · rw [if_neg hroom, if_neg hroom, eq_self_iff_true, true_iff]
      exact .inr (Nat.lt_of_not_le hroom)

/-- Two bytes behind a whole one. -/
theorem appendBytes_append_appendEach_whole :
    let buf : BitBuffer := { alloc 4 with sizeBits := 8 }
    buf.append (ofBytes [1, 2]) = buf.appendBytes [1, 2] ∧
      buf.appendEach [1, 2] = buf.appendBytes [1, 2] := by
  intro buf
  exact (appendBytes_append_appendEach_iff ⟨rfl, rfl⟩).mpr (.inl (Nat.mod_self 8))

/-- One byte behind three bits: at once it makes eleven bits, on its own sixteen. -/
theorem appendBytes_appendEach_partial :
    ∃ buf, calls.Reaches (fun _ _ => True) (alloc 4) buf ∧ (ofBytes [0xAA]).Holds [0xAA] ∧
      (buf.append (ofBytes [0xAA])).map sizeBits = some 11 ∧
      (buf.appendBytes [0xAA]).map sizeBits = some 11 ∧
      (buf.appendEach [0xAA]).map sizeBits = some 16 :=
  ⟨_, .step (e := .setSize 3) .refl trivial rfl, ⟨rfl, rfl⟩, rfl, rfl, rfl⟩

end BitBuffer

end FlipperZero
