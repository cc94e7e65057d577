import FlipperZero.Nfc.MfClassicAuth

/-!
# The nonces of a weak generator

A card with a weak generator takes its nonces from a shift register. `crypto1_prng_successor` runs
the register in a word whose bytes are swapped. `crypto1_is_weak_prng_nonce` runs one of half the
size from the first half of a nonce, and looks whether it comes to the other half.
-/

namespace FlipperZero

/-- The bytes of a half word swapped, `(x & 0xff) << 8 | x >> 8`. -/
def swapHalf (x : BitVec 16) : BitVec 16 := (x &&& 0xff) <<< 8 ||| x >>> 8

/-- One round of `crypto1_is_weak_prng_nonce`. -/
def weakPrngStep (x : BitVec 16) : BitVec 16 :=
  x >>> 1 ||| (x ^^^ x >>> 2 ^^^ x >>> 3 ^^^ x >>> 5) <<< 15

def crypto1IsWeakPrngNonce (nonce : BitVec 32) : Bool :=
  if nonce = 0 then false
  else
    let x : BitVec 16 := (nonce >>> 16).setWidth 16
    let x := swapHalf x
    let x := weakPrngStep^[16] x
    let x := swapHalf x
    x.setWidth 32 == nonce &&& 0xFFFF

/-! ### The halves of the register -/

def lowHalf (x : BitVec 32) : BitVec 16 := x.setWidth 16

def highHalf (x : BitVec 32) : BitVec 16 := (x >>> 16).setWidth 16

lemma getLsbD_highHalf (x : BitVec 32) (i : Nat) :
    (highHalf x).getLsbD i = (decide (i < 16) && x.getLsbD (16 + i)) := by
  simp [highHalf]

lemma highHalf_prngStep (x : BitVec 32) :
    highHalf (crypto1PrngStep x) = weakPrngStep (highHalf x) := by
  apply BitVec.eq_of_getLsbD_eq
  intro i hi
  simp only [getLsbD_highHalf, crypto1PrngStep, weakPrngStep, BitVec.getLsbD_or,
    BitVec.getLsbD_ushiftRight, BitVec.getLsbD_shiftLeft, BitVec.getLsbD_xor]
  obtain rfl | hlow : i = 15 ∨ i < 15 := by omega
  · simp
  · simp [show i < 16 by omega, show 16 + i < 31 by omega, hlow,
      show 1 + (16 + i) = 16 + (1 + i) by omega, show 1 + i < 16 by omega]

lemma highHalf_prngStep_iterate (x : BitVec 32) (n : Nat) :
    highHalf (crypto1PrngStep^[n] x) = weakPrngStep^[n] (highHalf x) :=
  Function.Semiconj.iterate_right (f := highHalf) highHalf_prngStep n x

lemma lowHalf_prngStep_iterate (x : BitVec 32) :
    lowHalf (crypto1PrngStep^[16] x) = highHalf x := by
  apply BitVec.eq_of_getLsbD_eq
  intro i hi
  rw [getLsbD_highHalf, lowHalf, BitVec.getLsbD_setWidth, getLsbD_prngStep_iterate _ (by omega),
    Nat.add_comm i]

/-- After sixteen rounds, the high half is what the check makes of the low one. -/
lemma highHalf_of_lowHalf (x : BitVec 32) {n : Nat} (hn : 16 ≤ n) :
    highHalf (crypto1PrngStep^[n] x) = weakPrngStep^[16] (lowHalf (crypto1PrngStep^[n] x)) := by
  obtain ⟨m, rfl⟩ := Nat.exists_eq_add_of_le hn
  rw [Function.iterate_add_apply, lowHalf_prngStep_iterate, highHalf_prngStep_iterate]

/-! ### The halves of a nonce -/

lemma swapHalf_swapHalf (x : BitVec 16) : swapHalf (swapHalf x) = x := by
  apply BitVec.eq_of_getLsbD_eq
  intro i hi
  interval_cases i <;> simp [swapHalf]

lemma highHalf_swapEndian (x : BitVec 32) : highHalf (swapEndian x) = swapHalf (lowHalf x) := by
  apply BitVec.eq_of_getLsbD_eq
  intro i hi
  interval_cases i <;> simp [highHalf, lowHalf, swapHalf, swapEndian]

lemma lowHalf_swapEndian (x : BitVec 32) : lowHalf (swapEndian x) = swapHalf (highHalf x) := by
  apply BitVec.eq_of_getLsbD_eq
  intro i hi
  interval_cases i <;> simp [highHalf, lowHalf, swapHalf, swapEndian]

lemma lowHalf_setWidth (x : BitVec 32) : (lowHalf x).setWidth 32 = x &&& 0xFFFF := by
  apply BitVec.eq_of_getLsbD_eq
  intro i hi
  interval_cases i <;> simp [lowHalf]

lemma isWeakPrngNonce_of_halves {nonce : BitVec 32} (hzero : nonce ≠ 0)
    (h : lowHalf nonce = swapHalf (weakPrngStep^[16] (swapHalf (highHalf nonce)))) :
    crypto1IsWeakPrngNonce nonce = true := by
  rw [crypto1IsWeakPrngNonce, if_neg hzero, ← lowHalf_setWidth, h]
  exact beq_self_eq_true _

/-- Whatever a nonce is, its successors from the sixteenth on are zero or pass the check for a
weak generator. -/
theorem prngSuccessor_isWeak (x : BitVec 32) (n : Nat) (hn : 16 ≤ n) :
    crypto1PrngSuccessor x n = 0 ∨
      crypto1IsWeakPrngNonce (crypto1PrngSuccessor x n) = true := by
  by_cases hzero : crypto1PrngSuccessor x n = 0
  · exact .inl hzero
  · refine .inr (isWeakPrngNonce_of_halves hzero ?_)
    rw [crypto1PrngSuccessor, lowHalf_swapEndian, highHalf_swapEndian, swapHalf_swapHalf,
      highHalf_of_lowHalf _ hn]

theorem prngSuccessor_isWeak_one :
    crypto1PrngSuccessor 1 16 = 0 ∨ crypto1IsWeakPrngNonce (crypto1PrngSuccessor 1 16) = true :=
  prngSuccessor_isWeak 1 16 (by decide)

end FlipperZero
