import FlipperZero.SubGhz.SecPlusV1
import Mathlib.Data.Fintype.Basic
import Mathlib.Tactic.FinCases

/-!
# Security+ 2.0 packets

`secplus_v2.c` sends a button, a serial number and a counter in two packets. The counter is reversed
and written with eighteen ternary digits, nine to a packet. Four of the nine say in which order the
three buffers of the packet are sent and which of them are inverted; the others are one of the
buffers. The tables for building and for reading a packet are written apart.
-/

namespace FlipperZero

open Foundation

/-! ### Buffers -/

/-- The buffers `p` of a packet. -/
structure SecPlusV2Buffers where
  p0 : BitVec 16
  p1 : BitVec 16
  p2 : BitVec 16
  deriving DecidableEq

/-- A buffer with its ten bits inverted. -/
def secPlusV2Inverted (p : BitVec 16) : BitVec 16 := ~~~p &&& 0x03FF

/-- `subghz_protocol_secplus_v2_mix_invet`, which fails for a mask that is not in the table. -/
def subghzProtocolSecplusV2MixInvet (p : SecPlusV2Buffers) : Nat → Option SecPlusV2Buffers
  | 0x00 => some ⟨secPlusV2Inverted p.p0, secPlusV2Inverted p.p1, p.p2⟩
  | 0x01 => some ⟨p.p0, secPlusV2Inverted p.p1, p.p2⟩
  | 0x02 => some ⟨p.p0, p.p1, secPlusV2Inverted p.p2⟩
  | 0x04 => some ⟨secPlusV2Inverted p.p0, secPlusV2Inverted p.p1, secPlusV2Inverted p.p2⟩
  | 0x05 => some ⟨secPlusV2Inverted p.p0, p.p1, secPlusV2Inverted p.p2⟩
  | 0x0a => some ⟨secPlusV2Inverted p.p0, p.p1, secPlusV2Inverted p.p2⟩
  | 0x06 => some ⟨p.p0, secPlusV2Inverted p.p1, secPlusV2Inverted p.p2⟩
  | 0x08 => some ⟨secPlusV2Inverted p.p0, p.p1, p.p2⟩
  | 0x09 => some p
  | _    => none

def subghzProtocolSecplusV2MixOrderDecode (p : SecPlusV2Buffers) : Nat → Option SecPlusV2Buffers
  | 0x06 => some { p with p2 := p.p0, p0 := p.p2 }
  | 0x09 => some { p with p2 := p.p0, p0 := p.p2 }
  | 0x08 => some { p with p1 := p.p0, p2 := p.p1, p0 := p.p2 }
  | 0x04 => some { p with p1 := p.p0, p2 := p.p1, p0 := p.p2 }
  | 0x01 => some { p with p2 := p.p0, p0 := p.p1, p1 := p.p2 }
  | 0x00 => some { p with p2 := p.p1, p1 := p.p2 }
  | 0x05 => some { p with p1 := p.p0, p0 := p.p1 }
  | 0x02 => some p
  | 0x0A => some p
  | _    => none

def subghzProtocolSecplusV2MixOrderEncode (p : SecPlusV2Buffers) : Nat → Option SecPlusV2Buffers
  | 0x06 => some ⟨p.p2, p.p1, p.p0⟩
  | 0x09 => some ⟨p.p2, p.p1, p.p0⟩
  | 0x08 => some ⟨p.p1, p.p2, p.p0⟩
  | 0x04 => some ⟨p.p1, p.p2, p.p0⟩
  | 0x01 => some ⟨p.p2, p.p0, p.p1⟩
  | 0x00 => some ⟨p.p0, p.p2, p.p1⟩
  | 0x05 => some ⟨p.p1, p.p0, p.p2⟩
  | 0x02 => some ⟨p.p0, p.p1, p.p2⟩
  | 0x0A => some ⟨p.p0, p.p1, p.p2⟩
  | _    => none

/-! ### Halves -/

def bitRead {w : Nat} (value : BitVec w) (bit : Nat) : BitVec 64 :=
  (BitVec.ofBool (value.getLsbD bit)).setWidth 64

/-- The round of `subghz_protocol_secplus_v2_decode_half` for the bits of the buffers. -/
def secPlusV2SplitBits (data : BitVec 64) (p : SecPlusV2Buffers) (i : Nat) : SecPlusV2Buffers where
  p0 := p.p0 <<< 1 ||| (bitRead data i).setWidth 16
  p1 := p.p1 <<< 1 ||| (bitRead data (i - 1)).setWidth 16
  p2 := p.p2 <<< 1 ||| (bitRead data (i - 2)).setWidth 16

/-- The ternary digits in a number, two bits each, from the shift `i` of the first one on. A digit
of three fails. -/
def secPlusV2Rolls (data : Nat) (shifts : List Nat) : Option (List Nat) :=
  shifts.mapM fun i => if data >>> i &&& 0x03 = 3 then none else some (data >>> i &&& 0x03)

def subghzProtocolSecplusV2DecodeHalf (data : BitVec 64) : Option (List Nat × BitVec 32) :=
  let order := (data >>> 34 &&& 0x0f).toNat
  let invert := (data >>> 30 &&& 0x0f).toNat
  let p := (List.range 10).foldl (fun p k => secPlusV2SplitBits data p (29 - 3 * k)) ⟨0, 0, 0⟩
  (subghzProtocolSecplusV2MixInvet p invert).bind fun p =>
    (subghzProtocolSecplusV2MixOrderDecode p order).bind fun p =>
      (secPlusV2Rolls (order <<< 4 ||| invert) [6, 4, 2, 0]).bind fun first =>
        (secPlusV2Rolls p.p2.toNat [8, 6, 4, 2, 0]).map fun second =>
          (first ++ second, p.p0.setWidth 32 <<< 10 ||| p.p1.setWidth 32)

/-- The round of `subghz_protocol_secplus_v2_encode_half` for a bit of each buffer. -/
def secPlusV2JoinBits (p : SecPlusV2Buffers) (data : BitVec 64) (i : Nat) : BitVec 64 :=
  data <<< 3 |||
    (bitRead p.p0 (9 - i) <<< 2 ||| bitRead p.p1 (9 - i) <<< 1 ||| bitRead p.p2 (9 - i))

def subghzProtocolSecplusV2EncodeHalf (roll : List Nat) (fixed : BitVec 32) : BitVec 64 :=
  let digit (i : Nat) : Nat := roll.getD i 0
  let order := digit 0 <<< 2 ||| digit 1
  let invert := digit 2 <<< 2 ||| digit 3
  let p : SecPlusV2Buffers :=
    ⟨(fixed >>> 10 &&& 0x3FF).setWidth 16, (fixed &&& 0x3FF).setWidth 16,
      BitVec.ofNat 16
        (digit 4 <<< 8 ||| digit 5 <<< 6 ||| digit 6 <<< 4 ||| digit 7 <<< 2 ||| digit 8)⟩
  match (subghzProtocolSecplusV2MixOrderEncode p order).bind
    fun p => subghzProtocolSecplusV2MixInvet p invert with
  | none   => 0
  | some p =>
    (List.range 10).foldl (secPlusV2JoinBits p) 0 |||
      (BitVec.ofNat 64 order <<< 34 ||| BitVec.ofNat 64 invert <<< 30)

/-! ### Messages -/

def secPlusV2Header : BitVec 64 := 0x3C0000000000

def secPlusV2HeaderMask : BitVec 64 := 0xFFFF3C0000000000

def secPlusV2Packet1 : BitVec 64 := 0x000000000000

def secPlusV2Packet2 : BitVec 64 := 0x010000000000

def secPlusV2PacketMask : BitVec 64 := 0x30000000000

/-- `SubGhzBlockGeneric`, as far as the protocol uses it. -/
structure SecPlusV2Generic where
  data : BitVec 64
  serial : BitVec 32
  dataCountBit : BitVec 16
  btn : BitVec 8
  cnt : BitVec 32
  deriving DecidableEq

/-- The numbers of the custom buttons. -/
inductive SubGhzCustomBtn where
  | ok
  | up
  | down
  | left
  | right
  deriving DecidableEq

/-- The state of `custom_btn.c`, as far as the protocol uses it. -/
structure SubGhzCustomBtns where
  id : SubGhzCustomBtn
  original : BitVec 8
  maxBtns : Nat

/-- The button that is kept for later if none is. -/
def SubGhzCustomBtns.keepOriginal (btns : SubGhzCustomBtns) (btn : BitVec 8) : SubGhzCustomBtns :=
  if btns.original = 0 then { btns with original := btn } else btns

def subghzProtocolSecplusV2GetBtnCode (btns : SubGhzCustomBtns) : BitVec 8 :=
  match btns.id, btns.original.toNat with
  | .up,    0x68 => 0x80
  | .up,    0x80 => 0x68
  | .up,    0x81 => 0x80
  | .up,    0xE2 => 0x80
  | .up,    0x78 => 0x80
  | .down,  0x68 => 0x81
  | .down,  0x80 => 0x81
  | .down,  0x81 => 0x68
  | .down,  0xE2 => 0x81
  | .down,  0x78 => 0x81
  | .left,  0x68 => 0xE2
  | .left,  0x80 => 0xE2
  | .left,  0x81 => 0xE2
  | .left,  0xE2 => 0x68
  | .left,  0x78 => 0xE2
  | .right, 0x68 => 0x78
  | .right, 0x80 => 0x78
  | .right, 0x81 => 0x78
  | .right, 0xE2 => 0x78
  | .right, 0x78 => 0x68
  | _,      _    => btns.original

/-- The digits of the counter in the packets. -/
def secPlusV2RollingDigits (roll1 roll2 : List Nat) : List Nat :=
  let digit1 (i : Nat) : Nat := roll1.getD i 0
  let digit2 (i : Nat) : Nat := roll2.getD i 0
  [digit2 8, digit1 8, digit2 4, digit2 5, digit2 6, digit2 7, digit1 4, digit1 5, digit1 6, digit1 7,
    digit2 0, digit2 1, digit2 2, digit2 3, digit1 0, digit1 1, digit1 2, digit1 3]

/-- What `subghz_protocol_secplus_v2_remote_controller` reads from the packets: the counter, the
button and the serial number. -/
def secPlusV2Read (packet1 data : BitVec 64) : Option (BitVec 32 × BitVec 8 × BitVec 32) :=
  (subghzProtocolSecplusV2DecodeHalf packet1).bind fun (roll1, fixed1) =>
    (subghzProtocolSecplusV2DecodeHalf data).bind fun (roll2, fixed2) =>
      let rolling := (secPlusV2RollingDigits roll1 roll2).foldl
        (fun rolling digit => (rolling * 3 + digit) % 2 ^ 32) 0
      if 0x10000000 ≤ rolling then none
      else
        some ((subghzProtocolBlocksReverseKey (BitVec.ofNat 64 rolling) 28).setWidth 32,
          (fixed1 >>> 12).setWidth 8, fixed1 <<< 20 ||| fixed2)

def subghzProtocolSecplusV2RemoteController (generic : SecPlusV2Generic) (packet1 : BitVec 64)
    (btns : SubGhzCustomBtns) : SecPlusV2Generic × SubGhzCustomBtns :=
  let generic :=
    match secPlusV2Read packet1 generic.data with
    | some (cnt, btn, serial) => { generic with cnt, btn, serial }
    | none                    => { generic with cnt := 0, btn := 0, serial := 0 }
  (generic, { btns.keepOriginal generic.btn with maxBtns := 4 })

structure SubGhzProtocolEncoderSecPlusV2 where
  generic : SecPlusV2Generic
  secplusPacket1 : BitVec 64

/-- The counter that is sent next. The multiplier is an `int8_t`. -/
def secPlusV2NextCounter (cnt : BitVec 32) (mult : BitVec 8) : BitVec 32 :=
  if 0xFFFFFFF < cnt + mult.signExtend 32 then 0xE500000 else cnt + mult.signExtend 32

/-- The digits of the counter that the first packet holds. -/
def secPlusV2Roll1 (digits : Nat → Nat) : List Nat :=
  [digits 14, digits 15, digits 16, digits 17, digits 6, digits 7, digits 8, digits 9, digits 1]

/-- The digits of the counter that the second packet holds. -/
def secPlusV2Roll2 (digits : Nat → Nat) : List Nat :=
  [digits 10, digits 11, digits 12, digits 13, digits 2, digits 3, digits 4, digits 5, digits 0]

/-- The digits of a counter, with the same loop as in `secplus_v1.c`. -/
def secPlusV2Digits (rolling : Nat) : Nat → Nat := secPlusV1Split 18 rolling fun _ => 0

def subghzProtocolSecplusV2Encode (inst : SubGhzProtocolEncoderSecPlusV2) (mult : BitVec 8)
    (btns : SubGhzCustomBtns) : SubGhzProtocolEncoderSecPlusV2 × SubGhzCustomBtns :=
  let btns := btns.keepOriginal inst.generic.btn
  let btn := subghzProtocolSecplusV2GetBtnCode btns
  let fixed1 : BitVec 32 := btn.setWidth 32 <<< 12 ||| inst.generic.serial >>> 20
  let fixed2 : BitVec 32 := inst.generic.serial &&& 0xFFFFF
  let cnt := secPlusV2NextCounter inst.generic.cnt mult
  let rolling := (subghzProtocolBlocksReverseKey (cnt.setWidth 64) 28).toNat
  let digits := secPlusV2Digits rolling
  ({ generic := { inst.generic with
        btn
        cnt
        data := secPlusV2Header ||| secPlusV2Packet2 |||
          subghzProtocolSecplusV2EncodeHalf (secPlusV2Roll2 digits) fixed2 }
     secplusPacket1 := secPlusV2Header ||| secPlusV2Packet1 |||
       subghzProtocolSecplusV2EncodeHalf (secPlusV2Roll1 digits) fixed1 }, btns)

/-! ### The tables -/

/-- The buffers have ten bits each. -/
structure SecPlusV2Buffers.Fits (p : SecPlusV2Buffers) : Prop where
  p0 : p.p0 &&& 0x03FF = p.p0
  p1 : p.p1 &&& 0x03FF = p.p1
  p2 : p.p2 &&& 0x03FF = p.p2

lemma secPlusV2Inverted_fits (p : BitVec 16) : secPlusV2Inverted p &&& 0x03FF = secPlusV2Inverted p := by
  rw [secPlusV2Inverted, BitVec.and_assoc, BitVec.and_self]

lemma secPlusV2Inverted_twice {p : BitVec 16} (h : p &&& 0x03FF = p) :
    secPlusV2Inverted (secPlusV2Inverted p) = p := by
  refine Eq.trans ?_ h
  apply BitVec.eq_of_getLsbD_eq
  intro i hi
  simp only [secPlusV2Inverted, BitVec.getLsbD_and, BitVec.getLsbD_not, decide_eq_true hi,
    Bool.true_and, Bool.not_and, Bool.not_not, Bool.and_or_distrib_right]
  cases (0x03FF : BitVec 16).getLsbD i <;> simp

variable {p : SecPlusV2Buffers}

/-- The masks of two digits are in the table, and inverting twice gives the buffers back. -/
lemma mixInvet_twice (hp : p.Fits) (r r' : Fin 3) :
    ∃ q, subghzProtocolSecplusV2MixInvet p (r.val <<< 2 ||| r'.val) = some q ∧
      subghzProtocolSecplusV2MixInvet q (r.val <<< 2 ||| r'.val) = some p ∧ q.Fits := by
  have h0 := secPlusV2Inverted_twice hp.p0
  have h1 := secPlusV2Inverted_twice hp.p1
  have h2 := secPlusV2Inverted_twice hp.p2
  have hfits := secPlusV2Inverted_fits
  obtain ⟨hp0, hp1, hp2⟩ := hp
  fin_cases r <;> fin_cases r' <;>
    refine ⟨_, rfl, ?_, ⟨?_, ?_, ?_⟩⟩ <;>
    first
      | exact hfits _
      | assumption
      | simp only [subghzProtocolSecplusV2MixInvet, h0, h1, h2, Nat.reduceShiftLeft, Nat.reduceOr]

/-- The orders of two digits are in both tables, which undo each other. -/
lemma mixOrderDecode_encode (hp : p.Fits) (r r' : Fin 3) :
    ∃ q, subghzProtocolSecplusV2MixOrderEncode p (r.val <<< 2 ||| r'.val) = some q ∧
      subghzProtocolSecplusV2MixOrderDecode q (r.val <<< 2 ||| r'.val) = some p ∧ q.Fits := by
  obtain ⟨hp0, hp1, hp2⟩ := hp
  fin_cases r <;> fin_cases r' <;> exact ⟨_, rfl, rfl, ⟨by assumption, by assumption, by assumption⟩⟩

/-! ### Bits -/

/-- The bits of the buffers in the order in which they are sent. -/
def secPlusV2Bit (p : SecPlusV2Buffers) (j : Nat) : Bool :=
  match j % 3 with
  | 0 => p.p0.getLsbD (9 - j / 3)
  | 1 => p.p1.getLsbD (9 - j / 3)
  | _ => p.p2.getLsbD (9 - j / 3)

lemma secPlusV2Bit_p0 (p : SecPlusV2Buffers) (n : Nat) :
    secPlusV2Bit p (3 * n) = p.p0.getLsbD (9 - n) := by
  have hmod : 3 * n % 3 = 0 := by omega
  have hdiv : 3 * n / 3 = n := by omega
  simp only [secPlusV2Bit, hmod, hdiv]

lemma secPlusV2Bit_p1 (p : SecPlusV2Buffers) (n : Nat) :
    secPlusV2Bit p (3 * n + 1) = p.p1.getLsbD (9 - n) := by
  have hmod : (3 * n + 1) % 3 = 1 := by omega
  have hdiv : (3 * n + 1) / 3 = n := by omega
  simp only [secPlusV2Bit, hmod, hdiv]

lemma secPlusV2Bit_p2 (p : SecPlusV2Buffers) (n : Nat) :
    secPlusV2Bit p (3 * n + 2) = p.p2.getLsbD (9 - n) := by
  have hmod : (3 * n + 2) % 3 = 2 := by omega
  have hdiv : (3 * n + 2) / 3 = n := by omega
  simp only [secPlusV2Bit, hmod, hdiv]

lemma secPlusV2JoinBits_eq (p : SecPlusV2Buffers) (data : BitVec 64) (i : Nat) :
    secPlusV2JoinBits p data i = shiftIn (shiftIn (shiftIn data (p.p0.getLsbD (9 - i)))
      (p.p1.getLsbD (9 - i))) (p.p2.getLsbD (9 - i)) := by
  simp only [secPlusV2JoinBits, bitRead, shiftIn, BitVec.shiftLeft_or_distrib, BitVec.or_assoc,
    ← BitVec.shiftLeft_add]

lemma foldl_secPlusV2JoinBits (p : SecPlusV2Buffers) (n : Nat) :
    (List.range n).foldl (secPlusV2JoinBits p) 0 = packed 64 (secPlusV2Bit p) (3 * n) := by
  induction n with
  | zero => rfl
  | succ n ih =>
    rw [List.range_succ, List.foldl_append, List.foldl_cons, List.foldl_nil, ih,
      secPlusV2JoinBits_eq, ← secPlusV2Bit_p0, ← secPlusV2Bit_p1, ← secPlusV2Bit_p2]
    rfl

lemma foldl_secPlusV2SplitBits (data : BitVec 64) (n : Nat) :
    (List.range n).foldl (fun p k => secPlusV2SplitBits data p (29 - 3 * k)) ⟨0, 0, 0⟩ =
      ⟨packed 16 (fun k => data.getLsbD (29 - 3 * k)) n,
        packed 16 (fun k => data.getLsbD (29 - 3 * k - 1)) n,
        packed 16 (fun k => data.getLsbD (29 - 3 * k - 2)) n⟩ := by
  have hread (i : Nat) : (bitRead data i).setWidth 16 =
      (BitVec.ofBool (data.getLsbD i)).setWidth 16 :=
    BitVec.setWidth_setWidth_of_le _ (by decide)
  induction n with
  | zero => rfl
  | succ n ih =>
    rw [List.range_succ, List.foldl_append, List.foldl_cons, List.foldl_nil, ih, secPlusV2SplitBits,
      hread, hread, hread]
    rfl

/-- A packet has the bits of the buffers, and above them the mask and the order. -/
structure SecPlusV2Packet (data : BitVec 64) (order invert : Nat) (p : SecPlusV2Buffers) : Prop where
  bits : ∀ j < 30, data.getLsbD j = secPlusV2Bit p (29 - j)
  invert : ∀ j < 4, data.getLsbD (30 + j) = invert.testBit j
  order : ∀ j < 4, data.getLsbD (34 + j) = order.testBit j

variable {data : BitVec 64} {order invert : Nat}

lemma packed_ten {f : Nat → Bool} {x : BitVec 16} (hx : x &&& 0x03FF = x)
    (h : ∀ i < 10, f i = x.getLsbD (9 - i)) : packed 16 f 10 = x := by
  rw [← hx]
  apply BitVec.eq_of_getLsbD_eq
  intro i hi
  have hmask : (0x03FF : BitVec 16).getLsbD i = decide (i < 10) := Nat.testBit_two_pow_sub_one 10 i
  rw [getLsbD_packed _ hi, BitVec.getLsbD_and, hmask, Bool.and_comm]
  by_cases hlt : i < 10
  · have hsub : 9 - (10 - 1 - i) = i := by omega
    rw [h _ (by omega), hsub]
  · rw [decide_eq_false hlt, Bool.and_false, Bool.and_false]

lemma SecPlusV2Packet.split (h : SecPlusV2Packet data order invert p) (hp : p.Fits) :
    (List.range 10).foldl (fun p k => secPlusV2SplitBits data p (29 - 3 * k)) ⟨0, 0, 0⟩ = p := by
  have hp0 := packed_ten hp.p0 fun i (hi : i < 10) => by
    have hindex : 29 - (29 - 3 * i) = 3 * i := by omega
    rw [← secPlusV2Bit_p0, ← hindex, ← h.bits _ (by omega)]
  have hp1 := packed_ten hp.p1 fun i (hi : i < 10) => by
    have hindex : 29 - (29 - 3 * i - 1) = 3 * i + 1 := by omega
    rw [← secPlusV2Bit_p1, ← hindex, ← h.bits _ (by omega)]
  have hp2 := packed_ten hp.p2 fun i (hi : i < 10) => by
    have hindex : 29 - (29 - 3 * i - 2) = 3 * i + 2 := by omega
    rw [← secPlusV2Bit_p2, ← hindex, ← h.bits _ (by omega)]
  rw [foldl_secPlusV2SplitBits, hp0, hp1, hp2]

lemma toNat_field {shift value : Nat} (hvalue : value < 16)
    (h : ∀ j < 4, data.getLsbD (shift + j) = value.testBit j) :
    (data >>> shift &&& 0x0f).toNat = value := by
  apply Nat.eq_of_testBit_eq
  intro j
  have hmask : (0x0f : BitVec 64).getLsbD j = decide (j < 4) := Nat.testBit_two_pow_sub_one 4 j
  rw [BitVec.testBit_toNat, BitVec.getLsbD_and, BitVec.getLsbD_ushiftRight, hmask]
  by_cases hj : j < 4
  · rw [h j hj, decide_eq_true hj, Bool.and_true]
  · rw [decide_eq_false hj, Bool.and_false]
    exact (Nat.testBit_lt_two_pow (Nat.lt_of_lt_of_le hvalue
      (Nat.pow_le_pow_right Nat.two_pos (Nat.not_lt.mp hj)))).symm

/-! ### A half and back -/

/-- The word in which a half stands has nothing else in its 38 bits. -/
lemma secPlusV2Packet_join {header : BitVec 64} (hheader : ∀ j < 38, header.getLsbD j = false)
    (p : SecPlusV2Buffers) (order : Nat) (hinvert : invert < 16) :
    SecPlusV2Packet (header ||| ((List.range 10).foldl (secPlusV2JoinBits p) 0 |||
      (BitVec.ofNat 64 order <<< 34 ||| BitVec.ofNat 64 invert <<< 30))) order invert p := by
  have hhigh {v : Nat} (hv : v < 16) {j : Nat} (hj : 4 ≤ j) : v.testBit j = false :=
    Nat.testBit_lt_two_pow (Nat.lt_of_lt_of_le hv (Nat.pow_le_pow_right Nat.two_pos hj))
  have hbits (j : Nat) : ((List.range 10).foldl (secPlusV2JoinBits p) 0).getLsbD j =
      (decide (j < 64) && (decide (j < 30) && secPlusV2Bit p (29 - j))) := by
    rw [foldl_secPlusV2JoinBits]
    by_cases hj : j < 64
    · rw [getLsbD_packed _ hj, decide_eq_true hj, Bool.true_and]
    · rw [decide_eq_false hj, Bool.false_and]
      exact BitVec.getLsbD_of_ge _ j (Nat.not_lt.mp hj)
  refine ⟨fun j hj => ?_, fun j hj => ?_, fun j hj => ?_⟩
  · simp only [BitVec.getLsbD_or, BitVec.getLsbD_shiftLeft, hbits, hheader j (by omega)]
    simp [hj, (by omega : j < 64), (by omega : j < 34)]
  · have hsub : 30 + j - 30 = j := by omega
    have hlow : decide (30 + j < 30) = false := decide_eq_false (by omega)
    have horder : decide (30 + j < 34) = true := decide_eq_true (by omega)
    simp only [BitVec.getLsbD_or, BitVec.getLsbD_shiftLeft, hbits, hheader (30 + j) (by omega), hsub,
      BitVec.getLsbD_ofNat, hlow, horder]
    simp [(by omega : 30 + j < 64), (by omega : j < 64)]
  · have hsub : 34 + j - 34 = j := by omega
    have hsub' : 34 + j - 30 = j + 4 := by omega
    have hlow : decide (34 + j < 30) = false := decide_eq_false (by omega)
    have horder : decide (34 + j < 34) = false := decide_eq_false (by omega)
    simp only [BitVec.getLsbD_or, BitVec.getLsbD_shiftLeft, hbits, hheader (34 + j) (by omega), hsub,
      hsub', BitVec.getLsbD_ofNat, hhigh hinvert (Nat.le_add_left 4 j), hlow, horder]
    simp [(by omega : 34 + j < 64), (by omega : j < 64)]

lemma secPlusV2Rolls_first (r0 r1 r2 r3 : Fin 3) :
    secPlusV2Rolls ((r0.val <<< 2 ||| r1.val) <<< 4 ||| (r2.val <<< 2 ||| r3.val)) [6, 4, 2, 0] =
      some [r0.val, r1.val, r2.val, r3.val] := by
  decide +revert

/-- The word of the last five digits. -/
def secPlusV2Tail (r4 r5 r6 r7 r8 : Nat) : BitVec 16 :=
  BitVec.ofNat 16 (r4 <<< 8 ||| r5 <<< 6 ||| r6 <<< 4 ||| r7 <<< 2 ||| r8)

lemma secPlusV2Rolls_tail (r4 r5 r6 r7 r8 : Fin 3) :
    secPlusV2Rolls (secPlusV2Tail r4 r5 r6 r7 r8).toNat [8, 6, 4, 2, 0] =
        some [r4.val, r5.val, r6.val, r7.val, r8.val] ∧
      secPlusV2Tail r4 r5 r6 r7 r8 &&& 0x03FF = secPlusV2Tail r4 r5 r6 r7 r8 := by
  decide +kernel +revert

lemma fixed_parts {fixed : BitVec 32} (hfixed : ∀ i, 20 ≤ i → fixed.getLsbD i = false) :
    ((fixed >>> 10 &&& 0x3FF).setWidth 16).setWidth 32 <<< 10 |||
      ((fixed &&& 0x3FF).setWidth 16).setWidth 32 = fixed := by
  have hmask (i : Nat) : (0x3FF : BitVec 32).getLsbD i = decide (i < 10) :=
    Nat.testBit_two_pow_sub_one 10 i
  apply BitVec.eq_of_getLsbD_eq
  intro i hi
  simp only [BitVec.getLsbD_or, BitVec.getLsbD_shiftLeft, BitVec.getLsbD_setWidth,
    BitVec.getLsbD_and, BitVec.getLsbD_ushiftRight, hmask, decide_eq_true hi, Bool.true_and]
  by_cases hlow : i < 10
  · simp [hlow, (by omega : i < 16)]
  · have hadd : 10 + (i - 10) = i := by omega
    rw [hadd]
    by_cases hhigh : i < 20
    · simp [hlow, (by omega : i - 10 < 10), (by omega : i - 10 < 16), (by omega : i - 10 < 32)]
    · rw [hfixed i (Nat.not_lt.mp hhigh)]
      simp

/-- The buffers of a packet before they are mixed. -/
def secPlusV2Unmixed (fixed : BitVec 32) (r4 r5 r6 r7 r8 : Nat) : SecPlusV2Buffers :=
  ⟨(fixed >>> 10 &&& 0x3FF).setWidth 16, (fixed &&& 0x3FF).setWidth 16, secPlusV2Tail r4 r5 r6 r7 r8⟩

lemma secPlusV2Unmixed_fits (fixed : BitVec 32) (r4 r5 r6 r7 r8 : Fin 3) :
    (secPlusV2Unmixed fixed r4 r5 r6 r7 r8).Fits := by
  have hmask (x : BitVec 32) : (x &&& 0x3FF).setWidth 16 &&& 0x03FF = (x &&& 0x3FF).setWidth 16 := by
    rw [BitVec.setWidth_and, BitVec.and_assoc]
    rfl
  exact ⟨hmask _, hmask _, (secPlusV2Rolls_tail r4 r5 r6 r7 r8).2⟩

lemma twoDigits_lt (r r' : Fin 3) : r.val <<< 2 ||| r'.val < 16 := by decide +revert

section Digits

variable (r0 r1 r2 r3 r4 r5 r6 r7 r8 : Fin 3) {fixed : BitVec 32}

lemma encodeHalf_eq (fixed : BitVec 32) :
    ∃ q q', subghzProtocolSecplusV2EncodeHalf
        [r0.val, r1.val, r2.val, r3.val, r4.val, r5.val, r6.val, r7.val, r8.val] fixed =
          (List.range 10).foldl (secPlusV2JoinBits q') 0 |||
            (BitVec.ofNat 64 (r0.val <<< 2 ||| r1.val) <<< 34 |||
              BitVec.ofNat 64 (r2.val <<< 2 ||| r3.val) <<< 30) ∧
      q'.Fits ∧ subghzProtocolSecplusV2MixInvet q' (r2.val <<< 2 ||| r3.val) = some q ∧
      subghzProtocolSecplusV2MixOrderDecode q (r0.val <<< 2 ||| r1.val) =
        some (secPlusV2Unmixed fixed r4 r5 r6 r7 r8) := by
  obtain ⟨q, hencode, hdecode, hq⟩ :=
    mixOrderDecode_encode (secPlusV2Unmixed_fits fixed r4 r5 r6 r7 r8) r0 r1
  obtain ⟨q', hinvet, hback, hq'⟩ := mixInvet_twice hq r2 r3
  refine ⟨q, q', ?_, hq', hback, hdecode⟩
  have hmix : (subghzProtocolSecplusV2MixOrderEncode (secPlusV2Unmixed fixed r4 r5 r6 r7 r8)
      (r0.val <<< 2 ||| r1.val)).bind
        (fun p => subghzProtocolSecplusV2MixInvet p (r2.val <<< 2 ||| r3.val)) = some q' := by
    rw [hencode, Option.bind_some, hinvet]
  simp only [subghzProtocolSecplusV2EncodeHalf]
  exact hmix ▸ rfl

lemma getLsbD_encodeHalf (fixed : BitVec 32) {j : Nat} (hj : 38 ≤ j) :
    (subghzProtocolSecplusV2EncodeHalf
      [r0.val, r1.val, r2.val, r3.val, r4.val, r5.val, r6.val, r7.val, r8.val] fixed).getLsbD j =
        false := by
  obtain ⟨-, q', hhalf, -⟩ := encodeHalf_eq r0 r1 r2 r3 r4 r5 r6 r7 r8 fixed
  by_cases h64 : j < 64
  · have hbit (r r' : Fin 3) {s : Nat} (hs : s ≤ 34) :
        (BitVec.ofNat 64 (r.val <<< 2 ||| r'.val) <<< s).getLsbD j = false := by
      have hzero : (r.val <<< 2 ||| r'.val).testBit (j - s) = false :=
        Nat.testBit_lt_two_pow (Nat.lt_of_lt_of_le (twoDigits_lt r r')
          (Nat.pow_le_pow_right Nat.two_pos (by omega : 4 ≤ j - s)))
      rw [BitVec.getLsbD_shiftLeft, BitVec.getLsbD_ofNat, hzero, Bool.and_false, Bool.and_false]
    rw [hhalf, BitVec.getLsbD_or, BitVec.getLsbD_or, hbit r0 r1 (Nat.le_refl 34),
      hbit r2 r3 (by decide), foldl_secPlusV2JoinBits, getLsbD_packed _ h64,
      decide_eq_false (by omega : ¬j < 3 * 10)]
    rfl
  · exact BitVec.getLsbD_of_ge _ j (Nat.not_lt.mp h64)

lemma decodeHalf_encodeHalf {header : BitVec 64} (hheader : ∀ j < 38, header.getLsbD j = false)
    (hfixed : ∀ i, 20 ≤ i → fixed.getLsbD i = false) :
    subghzProtocolSecplusV2DecodeHalf (header ||| subghzProtocolSecplusV2EncodeHalf
        [r0.val, r1.val, r2.val, r3.val, r4.val, r5.val, r6.val, r7.val, r8.val] fixed) =
      some ([r0.val, r1.val, r2.val, r3.val, r4.val, r5.val, r6.val, r7.val, r8.val], fixed) := by
  obtain ⟨q, q', hhalf, hq', hback, hdecode⟩ := encodeHalf_eq r0 r1 r2 r3 r4 r5 r6 r7 r8 fixed
  have hpacket :=
    secPlusV2Packet_join hheader q' (r0.val <<< 2 ||| r1.val) (twoDigits_lt r2 r3)
  rw [hhalf]
  simp only [subghzProtocolSecplusV2DecodeHalf]
  rw [toNat_field (twoDigits_lt r0 r1) hpacket.order, toNat_field (twoDigits_lt r2 r3) hpacket.invert,
    hpacket.split hq', hback, Option.bind_some, hdecode, Option.bind_some, secPlusV2Rolls_first,
    Option.bind_some, secPlusV2Unmixed, (secPlusV2Rolls_tail r4 r5 r6 r7 r8).1, Option.map_some,
    fixed_parts hfixed]
  rfl

end Digits

/-! ### The counter -/

lemma secPlusV2Digits_lt (rolling i : Nat) : secPlusV2Digits rolling i < 3 := by
  rw [secPlusV2Digits, secPlusV1Split_eq]
  split_ifs
  · exact Nat.mod_lt _ (by decide)
  · decide

lemma foldl_secPlusV2Digits {rolling : Nat} (h : rolling < 3 ^ 18) {n : Nat} (hn : n ≤ 18) :
    ((List.range n).map (secPlusV2Digits rolling)).foldl
      (fun rolling digit => (rolling * 3 + digit) % 2 ^ 32) 0 = rolling / 3 ^ (18 - n) := by
  induction n with
  | zero => exact (Nat.div_eq_of_lt h).symm
  | succ n ih =>
    have hpow : 18 - n = (18 - (n + 1)) + 1 := by omega
    have hindex : 18 - 1 - n = 18 - (n + 1) := by omega
    have hle := Nat.div_le_self rolling (3 ^ (18 - (n + 1)))
    rw [List.range_succ, List.map_append, List.map_singleton, List.foldl_append, ih (by omega),
      List.foldl_cons, List.foldl_nil, secPlusV2Digits, secPlusV1Split_eq, if_pos (by omega), hpow,
      Nat.pow_succ, ← Nat.div_div_eq_div_mul, hindex]
    omega

lemma secPlusV2NextCounter_lt (cnt : BitVec 32) (mult : BitVec 8) :
    (secPlusV2NextCounter cnt mult).toNat < 2 ^ 28 := by
  rw [secPlusV2NextCounter]
  split_ifs with h
  · decide
  · exact Nat.lt_succ_of_le (Nat.not_lt.mp h)

/-- A counter comes back from the number that is sent for it. -/
lemma reverseKey_counter {cnt : BitVec 32} (h : cnt.toNat < 2 ^ 28) :
    (subghzProtocolBlocksReverseKey (BitVec.ofNat 64
      (subghzProtocolBlocksReverseKey (cnt.setWidth 64) 28).toNat) 28).setWidth 32 = cnt := by
  have hlt : (cnt.setWidth 64).toNat < 2 ^ (28 : BitVec 8).toNat := by
    rw [BitVec.toNat_setWidth_of_le (by decide)]
    exact h
  rw [BitVec.ofNat_toNat, BitVec.setWidth_eq, subghzProtocolBlocksReverseKey_twice (by decide) hlt,
    BitVec.setWidth_setWidth_of_le _ (by decide), BitVec.setWidth_eq]

/-! ### Messages and back -/

/-- The fixed parts of the packets. -/
def secPlusV2Fixed1 (btn : BitVec 8) (serial : BitVec 32) : BitVec 32 :=
  btn.setWidth 32 <<< 12 ||| serial >>> 20

lemma getLsbD_fixed1 (btn : BitVec 8) (serial : BitVec 32) {i : Nat} (hi : 20 ≤ i) :
    (secPlusV2Fixed1 btn serial).getLsbD i = false := by
  rw [secPlusV2Fixed1, BitVec.getLsbD_or, BitVec.getLsbD_shiftLeft, BitVec.getLsbD_setWidth,
    BitVec.getLsbD_ushiftRight, BitVec.getLsbD_of_ge btn _ (by omega),
    BitVec.getLsbD_of_ge serial _ (by omega)]
  simp

lemma getLsbD_fixed2 (serial : BitVec 32) {i : Nat} (hi : 20 ≤ i) :
    (serial &&& 0xFFFFF).getLsbD i = false := by
  have hmask : (0xFFFFF : BitVec 32).getLsbD i = decide (i < 20) := Nat.testBit_two_pow_sub_one 20 i
  rw [BitVec.getLsbD_and, hmask, decide_eq_false (Nat.not_lt.mpr hi), Bool.and_false]

lemma fixed1_btn (btn : BitVec 8) (serial : BitVec 32) :
    (secPlusV2Fixed1 btn serial >>> 12).setWidth 8 = btn := by
  apply BitVec.eq_of_getLsbD_eq
  intro i hi
  have hsub : 12 + i - 12 = i := by omega
  rw [BitVec.getLsbD_setWidth, BitVec.getLsbD_ushiftRight, secPlusV2Fixed1, BitVec.getLsbD_or,
    BitVec.getLsbD_shiftLeft, BitVec.getLsbD_setWidth, BitVec.getLsbD_ushiftRight,
    BitVec.getLsbD_of_ge serial _ (by omega), hsub]
  simp [hi, (by omega : 12 + i < 32), (by omega : i < 32)]

lemma fixed1_serial (btn : BitVec 8) (serial : BitVec 32) :
    secPlusV2Fixed1 btn serial <<< 20 ||| (serial &&& 0xFFFFF) = serial := by
  apply BitVec.eq_of_getLsbD_eq
  intro i hi
  have hmask : (0xFFFFF : BitVec 32).getLsbD i = decide (i < 20) := Nat.testBit_two_pow_sub_one 20 i
  rw [BitVec.getLsbD_or, BitVec.getLsbD_and, hmask, BitVec.getLsbD_shiftLeft, secPlusV2Fixed1,
    BitVec.getLsbD_or, BitVec.getLsbD_shiftLeft, BitVec.getLsbD_ushiftRight]
  by_cases hlow : i < 20
  · simp [hlow]
  · have hadd : 20 + (i - 20) = i := by omega
    simp [hlow, hi, hadd, (by omega : i - 20 < 12)]

variable (inst : SubGhzProtocolEncoderSecPlusV2) (mult : BitVec 8) (btns : SubGhzCustomBtns)

lemma secPlusV2Headers :
    (∀ j < 38, (secPlusV2Header ||| secPlusV2Packet1).getLsbD j = false) ∧
      ∀ j < 38, (secPlusV2Header ||| secPlusV2Packet2).getLsbD j = false := by
  constructor
  · decide
  · decide

/-- The packets of a message are accepted, and what is read from them is what was sent. -/
lemma secPlusV2Read_encode :
    let r := subghzProtocolSecplusV2Encode inst mult btns
    secPlusV2Read r.1.secplusPacket1 r.1.generic.data =
      some (r.1.generic.cnt, r.1.generic.btn, r.1.generic.serial) := by
  intro r
  have hcnt := secPlusV2NextCounter_lt inst.generic.cnt mult
  set cnt := secPlusV2NextCounter inst.generic.cnt mult with hcntEq
  set rolling := (subghzProtocolBlocksReverseKey (cnt.setWidth 64) 28).toNat with hrolling
  have hlt : rolling < 0x10000000 := subghzProtocolBlocksReverseKey_lt _ _
  let digit (i : Nat) : Fin 3 := ⟨secPlusV2Digits rolling i, secPlusV2Digits_lt rolling i⟩
  have hfirst := decodeHalf_encodeHalf (digit 14) (digit 15) (digit 16) (digit 17) (digit 6)
    (digit 7) (digit 8) (digit 9) (digit 1) secPlusV2Headers.1
    (fun i hi => getLsbD_fixed1 r.1.generic.btn inst.generic.serial hi)
  have hsecond := decodeHalf_encodeHalf (digit 10) (digit 11) (digit 12) (digit 13) (digit 2)
    (digit 3) (digit 4) (digit 5) (digit 0) secPlusV2Headers.2
    (fun i hi => getLsbD_fixed2 inst.generic.serial hi)
  have hnumber := @foldl_secPlusV2Digits rolling (Nat.lt_trans hlt (by decide)) 18 (Nat.le_refl 18)
  rw [Nat.sub_self, Nat.pow_zero, Nat.div_one] at hnumber
  have hpackets : secPlusV2Read r.1.secplusPacket1 r.1.generic.data =
      if 0x10000000 ≤ rolling then none
      else
        some ((subghzProtocolBlocksReverseKey (BitVec.ofNat 64 rolling) 28).setWidth 32,
          (secPlusV2Fixed1 r.1.generic.btn inst.generic.serial >>> 12).setWidth 8,
          secPlusV2Fixed1 r.1.generic.btn inst.generic.serial <<< 20 |||
            (inst.generic.serial &&& 0xFFFFF)) := by
    rw [secPlusV2Read]
    refine (congrArg (Option.bind · _) hfirst).trans ?_
    rw [Option.bind_some]
    refine (congrArg (Option.bind · _) hsecond).trans ?_
    rw [Option.bind_some, ← hnumber]
    rfl
  rw [hpackets, if_neg (Nat.not_le.mpr hlt), hrolling, reverseKey_counter hcnt, fixed1_btn,
    fixed1_serial]
  rfl

/-- A packet of a kind, with 61 bits. -/
structure SecPlusV2Headed (packet kind : BitVec 64) : Prop where
  header : packet &&& secPlusV2HeaderMask = secPlusV2Header
  kind : packet &&& secPlusV2PacketMask = kind
  top : ∀ j, 61 ≤ j → packet.getLsbD j = false

lemma header_or_and {header half mask : BitVec 64} (hhalf : ∀ j, 38 ≤ j → half.getLsbD j = false)
    (hmask : ∀ j < 38, mask.getLsbD j = false) : (header ||| half) &&& mask = header &&& mask := by
  apply BitVec.eq_of_getLsbD_eq
  intro j _
  rw [BitVec.getLsbD_and, BitVec.getLsbD_and, BitVec.getLsbD_or]
  by_cases hj : j < 38
  · rw [hmask j hj, Bool.and_false, Bool.and_false]
  · rw [hhalf j (Nat.not_lt.mp hj), Bool.or_false]

lemma headed_or {header half : BitVec 64} (kind : BitVec 64)
    (hheader : header &&& secPlusV2HeaderMask = secPlusV2Header)
    (hkind : header &&& secPlusV2PacketMask = kind) (htop : header.toNat < 2 ^ 61)
    (hhalf : ∀ j, 38 ≤ j → half.getLsbD j = false) : SecPlusV2Headed (header ||| half) kind where
  header := (header_or_and hhalf (by decide)).trans hheader
  kind := (header_or_and hhalf (by decide)).trans hkind
  top := fun j hj => by
    have hlow : header.getLsbD j = false :=
      Nat.testBit_lt_two_pow (Nat.lt_of_lt_of_le htop (Nat.pow_le_pow_right Nat.two_pos hj))
    rw [BitVec.getLsbD_or, hlow, hhalf j (by omega), Bool.or_false]

lemma headed_encode :
    let r := subghzProtocolSecplusV2Encode inst mult btns
    SecPlusV2Headed r.1.secplusPacket1 secPlusV2Packet1 ∧
      SecPlusV2Headed r.1.generic.data secPlusV2Packet2 := by
  intro r
  set rolling := (subghzProtocolBlocksReverseKey
    ((secPlusV2NextCounter inst.generic.cnt mult).setWidth 64) 28).toNat
  let digit (i : Nat) : Fin 3 := ⟨secPlusV2Digits rolling i, secPlusV2Digits_lt rolling i⟩
  exact ⟨headed_or _ (by decide) (by decide) (by decide) fun j hj =>
      getLsbD_encodeHalf (digit 14) (digit 15) (digit 16) (digit 17) (digit 6) (digit 7) (digit 8)
        (digit 9) (digit 1) _ hj,
    headed_or _ (by decide) (by decide) (by decide) fun j hj =>
      getLsbD_encodeHalf (digit 10) (digit 11) (digit 12) (digit 13) (digit 2) (digit 3) (digit 4)
        (digit 5) (digit 0) _ hj⟩

end FlipperZero
