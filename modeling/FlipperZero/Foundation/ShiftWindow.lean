import FlipperZero.Foundation.BitString

/-!
# Windows on a stream of bits

A window is a shift register that shows the last bits of a stream. A test looks at it after every
bit; it may accept what it sees, and it may overwrite the register while it looks. The bits that
have come in since it was last overwritten are shown as they came.
-/

namespace Foundation

/-- A test of a window: whether it accepts a word, and the word that it leaves. -/
structure WindowTest (n : Nat) where
  accepts : BitVec n → Bool
  strips : BitVec n → Bool
  strip : BitVec n → BitVec n

def WindowTest.left {n : Nat} (T : WindowTest n) (word : BitVec n) : BitVec n :=
  if T.strips word then T.strip word else word

/-- A window with the bits of its stream, the last one first, and the number of bits since the word
was overwritten. -/
structure ShiftWindow (n : Nat) where
  word : BitVec n
  bits : List Bool
  clean : Nat

/-- The last bits of a stream as a word, with zeros before its start. -/
def lastBits (n : Nat) (bits : List Bool) : BitVec n :=
  packed n (fun k => bits.getD (n - 1 - k) false) n

namespace ShiftWindow

variable {n : Nat}

/-- The window on a stream without bits. Its zeros are what comes before the stream. -/
def start (n : Nat) : ShiftWindow n := ⟨0, [], n⟩

/-- A bit comes in and the test looks at the word. -/
def push (T : WindowTest n) (s : ShiftWindow n) (b : Bool) : ShiftWindow n where
  word := T.left (shiftIn s.word b)
  bits := b :: s.bits
  clean := if T.strips (shiftIn s.word b) then 0 else s.clean + 1

/-- A bit comes in `k` times. A window that stops at the first word that is accepted does not see the
rest of them. -/
def pushes (T : WindowTest n) (stop b : Bool) : Nat → ShiftWindow n → Bool × ShiftWindow n
  | 0, s     => (false, s)
  | k + 1, s =>
    let accepted := T.accepts (shiftIn s.word b)
    let s := s.push T b
    if accepted && stop then (true, { s with bits := List.replicate k b ++ s.bits, clean := 0 })
    else
      let r := pushes T stop b k s
      (accepted || r.1, r.2)

/-- The words that the test looks at while a bit comes in `k` times. -/
def seen (T : WindowTest n) (stop b : Bool) : Nat → BitVec n → List (BitVec n)
  | 0, _        => []
  | k + 1, word =>
    let word := shiftIn word b
    word :: if T.accepts word && stop then [] else seen T stop b k (T.left word)

/-- The bits that have come in since the word was overwritten are shown. -/
def Exact (s : ShiftWindow n) : Prop :=
  ∀ j, j < s.clean → j < n → s.word.getLsbD j = s.bits.getD j false

variable {T : WindowTest n} {s : ShiftWindow n}

lemma exact_start (n : Nat) : (start n).Exact := by
  intro j _ _
  simp [start]

lemma exact_of_clean (h : s.clean = 0) : s.Exact := by
  intro j hj
  rw [h] at hj
  exact absurd hj (Nat.not_lt_zero j)

lemma Exact.push (h : s.Exact) (T : WindowTest n) (b : Bool) : (s.push T b).Exact := by
  by_cases hstrips : T.strips (shiftIn s.word b) = true
  · apply exact_of_clean
    rw [ShiftWindow.push, if_pos hstrips]
  · intro j hj hn
    simp only [ShiftWindow.push, WindowTest.left, if_neg hstrips] at hj ⊢
    rw [getLsbD_shiftIn _ _ hn]
    cases j with
    | zero => rfl
    | succ j =>
      rw [if_neg (Nat.succ_ne_zero j), Nat.succ_sub_one, List.getD_cons_succ]
      exact h j (Nat.lt_of_succ_lt_succ hj) (Nat.lt_of_succ_lt hn)

lemma Exact.pushes (h : s.Exact) (T : WindowTest n) (stop b : Bool) (k : Nat) :
    (s.pushes T stop b k).2.Exact := by
  induction k generalizing s with
  | zero => exact h
  | succ k ih =>
    rw [ShiftWindow.pushes]
    split_ifs
    · exact exact_of_clean rfl
    · exact ih (h.push T b)

lemma bits_pushes (T : WindowTest n) (stop b : Bool) (k : Nat) (s : ShiftWindow n) :
    (s.pushes T stop b k).2.bits = List.replicate k b ++ s.bits := by
  have hcons (k : Nat) (bits : List Bool) :
      List.replicate k b ++ b :: bits = List.replicate (k + 1) b ++ bits := by
    rw [List.replicate_succ', List.append_assoc, List.singleton_append]
  induction k generalizing s with
  | zero => rfl
  | succ k ih =>
    rw [ShiftWindow.pushes]
    split_ifs
    · exact hcons k s.bits
    · exact (ih (s.push T b)).trans (hcons k s.bits)

lemma pushes_one {stop b : Bool} (h : T.accepts (shiftIn s.word b) = false) :
    s.pushes T stop b 1 = (false, s.push T b) := by
  rw [ShiftWindow.pushes, h, Bool.false_and, if_neg Bool.false_ne_true]
  rfl

/-- A window that has not been overwritten for its whole length shows the last bits. -/
theorem Exact.word_eq (h : s.Exact) (hclean : n ≤ s.clean) : s.word = lastBits n s.bits := by
  apply BitVec.eq_of_getLsbD_eq
  intro j hj
  have hsub : n - 1 - (n - 1 - j) = j := by omega
  rw [h j (Nat.lt_of_lt_of_le hj hclean) hj, lastBits, getLsbD_packed _ hj, decide_eq_true hj,
    Bool.true_and, hsub]

end ShiftWindow

end Foundation
