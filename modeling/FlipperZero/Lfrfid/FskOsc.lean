import FlipperZero.Foundation.MachineInt
import Mathlib.Algebra.Ring.Nat

/-!
# The oscillator of the encoders

`fsk_ocs.c` gives the periods of one of two frequencies until they fill a bit. What the last period
has too much is kept for the next bit, so that frames do not drift. That is so as long as a period
is no longer than a bit: of a longer one there is more than a bit left over.
-/

namespace FlipperZero

structure FSKOsc where
  freq : Bool → BitVec 16
  oscPhaseMax : BitVec 16
  oscPhaseCurrent : BitVec 32
  pulse : BitVec 32

/-- `fsk_osc_alloc`. The arguments are cut to the width of the fields. -/
def fskOscAlloc (freqLow freqHi oscPhaseMax : BitVec 32) : FSKOsc where
  freq bit := if bit then freqHi.setWidth 16 else freqLow.setWidth 16
  oscPhaseMax := oscPhaseMax.setWidth 16
  oscPhaseCurrent := 0
  pulse := 0

/-- What a call of `fsk_osc_next` returns, with the oscillator that it leaves. -/
structure FSKOscCall where
  advance : Bool
  period : BitVec 32
  osc : FSKOsc

/-- `fsk_osc_next`. The phase is signed. -/
def fskOscNext (osc : FSKOsc) (bit : Bool) : FSKOscCall :=
  let period := (osc.freq bit).setWidth 32
  let phase := osc.oscPhaseCurrent + period
  if (osc.oscPhaseMax.setWidth 32).slt phase then
    ⟨true, period, { osc with oscPhaseCurrent := phase - osc.oscPhaseMax.setWidth 32 }⟩
  else ⟨false, period, { osc with oscPhaseCurrent := phase }⟩

/-- The calls for bits: each one is presented until the oscillator advances. There is no result if
the given number of calls is too small. -/
def fskOscDrive : Nat → FSKOsc → List Bool → Option (List FSKOscCall)
  | _, _, []              => some []
  | 0, _, _ :: _          => none
  | n + 1, osc, bit :: bits =>
    let call := fskOscNext osc bit
    (fskOscDrive n call.osc (if call.advance then bits else bit :: bits)).map (call :: ·)

def totalPeriod (calls : List FSKOscCall) : Nat := (calls.map fun call => call.period.toNat).sum

/-- How often the oscillator advances. -/
def advances (calls : List FSKOscCall) : Nat := calls.countP fun call => call.advance

def finalPhase (osc : FSKOsc) (calls : List FSKOscCall) : Int :=
  ((calls.map FSKOscCall.osc).getLastD osc).oscPhaseCurrent.toInt

/-- The phase lies between zero and the maximum. -/
def FSKOsc.InPhase (osc : FSKOsc) : Prop :=
  0 ≤ osc.oscPhaseCurrent.toInt ∧ osc.oscPhaseCurrent.toInt ≤ osc.oscPhaseMax.toNat

instance (osc : FSKOsc) : Decidable osc.InPhase :=
  inferInstanceAs (Decidable (_ ∧ _))

/-! ### One call -/

section

variable {osc : FSKOsc} {bit : Bool}

@[simp] lemma fskOscNext_period : (fskOscNext osc bit).period.toNat = (osc.freq bit).toNat := by
  simp only [fskOscNext]
  split
  all_goals
    simp only [BitVec.toNat_setWidth]
    omega

@[simp] lemma fskOscNext_freq : (fskOscNext osc bit).osc.freq = osc.freq := by
  simp only [fskOscNext]
  split <;> rfl

@[simp] lemma fskOscNext_oscPhaseMax :
    (fskOscNext osc bit).osc.oscPhaseMax = osc.oscPhaseMax := by
  simp only [fskOscNext]
  split <;> rfl

lemma toInt_eq_toNat {x : BitVec 32} (h : x.toNat < 2 ^ 31) : x.toInt = x.toNat :=
  BitVec.toInt_eq_toNat_of_lt (by omega)

/-- Where the phase does not overflow, a call takes the maximum from it if it advances. -/
lemma fskOscNext_phase (osc : FSKOsc) (bit : Bool)
    (h : osc.oscPhaseCurrent.toNat + (osc.freq bit).toNat < 2 ^ 31) :
    ((fskOscNext osc bit).advance = true ∧
        osc.oscPhaseMax.toNat < osc.oscPhaseCurrent.toNat + (osc.freq bit).toNat ∧
        (fskOscNext osc bit).osc.oscPhaseCurrent.toNat + osc.oscPhaseMax.toNat =
          osc.oscPhaseCurrent.toNat + (osc.freq bit).toNat) ∨
      ((fskOscNext osc bit).advance = false ∧
        osc.oscPhaseCurrent.toNat + (osc.freq bit).toNat ≤ osc.oscPhaseMax.toNat ∧
        (fskOscNext osc bit).osc.oscPhaseCurrent.toNat =
          osc.oscPhaseCurrent.toNat + (osc.freq bit).toNat) := by
  have hsum : (osc.oscPhaseCurrent + (osc.freq bit).setWidth 32).toNat =
      osc.oscPhaseCurrent.toNat + (osc.freq bit).toNat := by
    rw [BitVec.toNat_add, BitVec.toNat_setWidth]
    omega
  have hmax : (osc.oscPhaseMax.setWidth 32).toNat = osc.oscPhaseMax.toNat := by
    rw [BitVec.toNat_setWidth]
    omega
  have hcompare : (osc.oscPhaseMax.setWidth 32).slt
        (osc.oscPhaseCurrent + (osc.freq bit).setWidth 32) =
      decide (osc.oscPhaseMax.toNat < osc.oscPhaseCurrent.toNat + (osc.freq bit).toNat) := by
    rw [BitVec.slt, toInt_eq_toNat (by omega), toInt_eq_toNat (by omega), hsum, hmax, decide_eq_decide]
    omega
  by_cases hadvance : osc.oscPhaseMax.toNat < osc.oscPhaseCurrent.toNat + (osc.freq bit).toNat
  · simp only [fskOscNext, hcompare, hadvance, decide_true, if_true, true_and, Bool.true_eq_false,
      false_and, or_false]
    rw [BitVec.toNat_sub, hsum, hmax]
    omega
  · simp only [fskOscNext, hcompare, hadvance, decide_false, Bool.false_eq_true, if_false, false_and,
      false_or, true_and]
    exact ⟨Nat.le_of_not_lt hadvance, hsum⟩

/-- No period is longer than a bit. -/
def FSKOsc.Slow (osc : FSKOsc) : Prop := ∀ bit, osc.freq bit ≤ osc.oscPhaseMax

lemma FSKOsc.Slow.next (h : osc.Slow) : (fskOscNext osc bit).osc.Slow := by
  intro b
  rw [fskOscNext_freq, fskOscNext_oscPhaseMax]
  exact h b

lemma FSKOsc.inPhase_iff (osc : FSKOsc) :
    osc.InPhase ↔ osc.oscPhaseCurrent.toNat ≤ osc.oscPhaseMax.toNat := by
  have hmax := osc.oscPhaseMax.isLt
  have hphase := osc.oscPhaseCurrent.isLt
  rw [FSKOsc.InPhase, BitVec.toInt_eq_toNat_cond]
  split <;> omega

lemma FSKOsc.InPhase.next (h : osc.InPhase) (hslow : osc.Slow) (bit : Bool) :
    (fskOscNext osc bit).osc.InPhase := by
  rw [FSKOsc.inPhase_iff] at h ⊢
  have hmax := osc.oscPhaseMax.isLt
  have hfreq : (osc.freq bit).toNat ≤ osc.oscPhaseMax.toNat := hslow bit
  rw [fskOscNext_oscPhaseMax]
  rcases fskOscNext_phase osc bit (by omega) with ⟨-, -, h⟩ | ⟨-, hle, h⟩ <;> omega

end

/-! ### Whole sequences -/

lemma fskOscDrive_succ {n : Nat} {osc : FSKOsc} {bit : Bool} {bits : List Bool}
    {calls : List FSKOscCall} : fskOscDrive (n + 1) osc (bit :: bits) = some calls ↔
      ∃ rest, fskOscDrive n (fskOscNext osc bit).osc
          (if (fskOscNext osc bit).advance then bits else bit :: bits) = some rest ∧
        fskOscNext osc bit :: rest = calls :=
  Option.map_eq_some_iff

/-- The calls that an oscillator may see. -/
inductive FskOscCalls : FSKOsc → List FSKOscCall → Prop
  | nil (osc : FSKOsc) : FskOscCalls osc []
  | cons (osc : FSKOsc) (bit : Bool) (rest : List FSKOscCall)
    (h : FskOscCalls (fskOscNext osc bit).osc rest) : FskOscCalls osc (fskOscNext osc bit :: rest)

lemma fskOscCalls_of_drive {n : Nat} {osc : FSKOsc} {bits : List Bool} {calls : List FSKOscCall}
    (h : fskOscDrive n osc bits = some calls) : FskOscCalls osc calls := by
  induction n generalizing osc bits calls with
  | zero =>
    cases bits with
    | nil =>
      obtain rfl : [] = calls := Option.some.inj h
      exact .nil osc
    | cons bit bits => exact absurd h (Option.some_ne_none calls).symm
  | succ n ih =>
    cases bits with
    | nil =>
      obtain rfl : [] = calls := Option.some.inj h
      exact .nil osc
    | cons bit bits =>
      obtain ⟨rest, hrest, rfl⟩ := fskOscDrive_succ.mp h
      exact .cons osc bit rest (ih hrest)

/-- With periods that are no longer than a bit, the phase never leaves its range. -/
lemma FskOscCalls.inPhase {osc : FSKOsc} {calls : List FSKOscCall} (h : FskOscCalls osc calls)
    (hslow : osc.Slow) (hphase : osc.InPhase) : ∀ call ∈ calls, call.osc.InPhase := by
  induction h with
  | nil osc => exact fun call hcall => absurd hcall List.not_mem_nil
  | cons osc bit rest h ih =>
    intro call hcall
    rcases List.mem_cons.mp hcall with rfl | hcall
    · exact hphase.next hslow bit
    · exact ih hslow.next (hphase.next hslow bit) call hcall

lemma FskOscCalls.conserves {osc : FSKOsc} {calls : List FSKOscCall} (h : FskOscCalls osc calls)
    (hfits : osc.oscPhaseCurrent.toNat + totalPeriod calls < 2 ^ 31 ∨ osc.Slow ∧ osc.InPhase) :
    (osc.oscPhaseCurrent.toNat + totalPeriod calls : Int) =
      advances calls * osc.oscPhaseMax.toNat + finalPhase osc calls := by
  induction h with
  | nil osc =>
    have hlt : osc.oscPhaseCurrent.toNat < 2 ^ 31 := by
      rcases hfits with hfits | ⟨-, hphase⟩
      · exact hfits
      · have hmax := osc.oscPhaseMax.isLt
        have hle := osc.inPhase_iff.mp hphase
        omega
    show (osc.oscPhaseCurrent.toNat + 0 : Int) = 0 * _ + osc.oscPhaseCurrent.toInt
    rw [toInt_eq_toNat hlt, Int.zero_mul, Int.zero_add, Int.add_zero]
  | cons osc bit rest h ih =>
    have htotal : totalPeriod (fskOscNext osc bit :: rest) =
        (osc.freq bit).toNat + totalPeriod rest := by
      rw [totalPeriod, List.map_cons, List.sum_cons, fskOscNext_period]
      rfl
    have hlast : finalPhase osc (fskOscNext osc bit :: rest) =
        finalPhase (fskOscNext osc bit).osc rest := by
      rw [finalPhase, List.map_cons, List.getLastD_cons]
      rfl
    have hlt : osc.oscPhaseCurrent.toNat + (osc.freq bit).toNat < 2 ^ 31 := by
      rcases hfits with hfits | ⟨hslow, hphase⟩
      · omega
      · have hmax := osc.oscPhaseMax.isLt
        have hle := osc.inPhase_iff.mp hphase
        have hfreq : (osc.freq bit).toNat ≤ osc.oscPhaseMax.toNat := hslow bit
        omega
    have hstep := fskOscNext_phase osc bit hlt
    have hrest := ih <| hfits.imp (fun hfits => by omega)
      fun ⟨hslow, hphase⟩ => ⟨hslow.next, hphase.next hslow bit⟩
    rw [fskOscNext_oscPhaseMax] at hrest
    rw [htotal, hlast, advances, List.countP_cons]
    rcases hstep with ⟨hadvance, -, hphase⟩ | ⟨hadvance, -, hphase⟩
    · rw [if_pos hadvance, Int.natCast_succ, Int.add_mul]
      rw [advances] at hrest
      omega
    · rw [if_neg (by rw [hadvance]; exact Bool.false_ne_true), Nat.add_zero]
      rw [advances] at hrest
      omega

lemma fskOscDrive_enough {n : Nat} {osc : FSKOsc} {bits : List Bool} (hslow : osc.Slow)
    (hfreq : ∀ bit, osc.freq bit ≠ 0) (hphase : osc.InPhase)
    (hn : (osc.oscPhaseMax.toNat + 1) * bits.length ≤ n + osc.oscPhaseCurrent.toNat) :
    ∃ calls, fskOscDrive n osc bits = some calls ∧ advances calls = bits.length := by
  have hmax := osc.oscPhaseMax.isLt
  have hle := osc.inPhase_iff.mp hphase
  induction n generalizing osc bits with
  | zero =>
    cases bits with
    | nil => exact ⟨[], rfl, rfl⟩
    | cons bit bits =>
      rw [List.length_cons, Nat.mul_succ] at hn
      omega
  | succ n ih =>
    cases bits with
    | nil => exact ⟨[], rfl, rfl⟩
    | cons bit bits =>
      have hbit : (osc.freq bit).toNat ≤ osc.oscPhaseMax.toNat := hslow bit
      have hpos : 0 < (osc.freq bit).toNat :=
        Nat.pos_of_ne_zero fun h => hfreq bit (BitVec.eq_of_toNat_eq h)
      have hnext := hphase.next hslow bit
      rw [List.length_cons, Nat.mul_succ] at hn
      rcases fskOscNext_phase osc bit (by omega) with
        ⟨hadvance, -, hsum⟩ | ⟨hadvance, -, hsum⟩
      · have hleft : ((fskOscNext osc bit).osc.oscPhaseMax.toNat + 1) * bits.length ≤
            n + (fskOscNext osc bit).osc.oscPhaseCurrent.toNat := by
          rw [fskOscNext_oscPhaseMax]
          omega
        obtain ⟨rest, hrest, hcount⟩ := ih hslow.next
          (by rw [fskOscNext_freq]; exact hfreq) hnext hleft (fskOscNext osc bit).osc.oscPhaseMax.isLt
          ((FSKOsc.inPhase_iff _).mp hnext)
        refine ⟨_, fskOscDrive_succ.mpr ⟨rest, by rwa [if_pos hadvance], rfl⟩, ?_⟩
        rw [advances, List.countP_cons, if_pos hadvance, ← advances, hcount, List.length_cons]
      · have hfalse : ¬(fskOscNext osc bit).advance = true := by
          rw [hadvance]
          exact Bool.false_ne_true
        have hleft : ((fskOscNext osc bit).osc.oscPhaseMax.toNat + 1) * (bit :: bits).length ≤
            n + (fskOscNext osc bit).osc.oscPhaseCurrent.toNat := by
          rw [fskOscNext_oscPhaseMax, List.length_cons, Nat.mul_succ]
          omega
        obtain ⟨rest, hrest, hcount⟩ := ih hslow.next
          (by rw [fskOscNext_freq]; exact hfreq) hnext hleft
          (fskOscNext osc bit).osc.oscPhaseMax.isLt ((FSKOsc.inPhase_iff _).mp hnext)
        refine ⟨_, fskOscDrive_succ.mpr ⟨rest, by rwa [if_neg hfalse], rfl⟩, ?_⟩
        rw [advances, List.countP_cons, if_neg hfalse, ← advances, hcount, Nat.add_zero]

lemma fskOscDrive_leaves {osc : FSKOsc} {bit : Bool}
    (hlong : osc.oscPhaseMax.toNat < (osc.freq bit).toNat) (hphase : osc.InPhase) :
    ∃ n bits calls, fskOscDrive n osc bits = some calls ∧ ∃ call ∈ calls, ¬call.osc.InPhase := by
  have hle := osc.inPhase_iff.mp hphase
  induction hleft : osc.oscPhaseMax.toNat - osc.oscPhaseCurrent.toNat using Nat.strong_induction_on
    generalizing osc with
  | _ left ih =>
    have hmax := osc.oscPhaseMax.isLt
    have hwidth := (osc.freq bit).isLt
    rcases fskOscNext_phase osc bit (by omega) with
      ⟨hadvance, -, hsum⟩ | ⟨-, hshort, -⟩
    · by_cases hin : (fskOscNext osc bit).osc.InPhase
      · have hnext := (FSKOsc.inPhase_iff _).mp hin
        rw [fskOscNext_oscPhaseMax] at hnext
        obtain ⟨n, bits, rest, hrest, call, hcall, hout⟩ :=
          ih (osc.oscPhaseMax.toNat - (fskOscNext osc bit).osc.oscPhaseCurrent.toNat) (by omega)
            (by rw [fskOscNext_oscPhaseMax, fskOscNext_freq]; exact hlong) hin
            ((FSKOsc.inPhase_iff _).mp hin) (by rw [fskOscNext_oscPhaseMax])
        exact ⟨n + 1, bit :: bits, _, fskOscDrive_succ.mpr ⟨rest, by rwa [if_pos hadvance], rfl⟩,
          call, List.mem_cons_of_mem _ hcall, hout⟩
      · exact ⟨1, [bit], [fskOscNext osc bit],
          fskOscDrive_succ.mpr ⟨[], by rw [if_pos hadvance]; rfl, rfl⟩, _, List.mem_singleton_self _,
          hin⟩
    · omega

/-- The phase stays in its range for all bits if no period is longer than a bit, and only then; all
bits then come to their end. The periods add up to what was advanced over and the last phase, also
with longer periods as long as the phase does not overflow. -/
theorem fskOscDrive_conserves (osc : FSKOsc) (hstart : osc.oscPhaseCurrent = 0)
    (hfreq : ∀ bit, osc.freq bit ≠ 0) :
    ((∀ n bits calls, fskOscDrive n osc bits = some calls → ∀ call ∈ calls, call.osc.InPhase) ↔
        ∀ bit, osc.freq bit ≤ osc.oscPhaseMax) ∧
      ((∀ bit, osc.freq bit ≤ osc.oscPhaseMax) → ∀ bits, ∃ calls,
        fskOscDrive ((osc.oscPhaseMax.toNat + 1) * bits.length) osc bits = some calls ∧
          advances calls = bits.length) ∧
      ∀ n bits calls, fskOscDrive n osc bits = some calls →
        ((∀ bit, osc.freq bit ≤ osc.oscPhaseMax) ∨ totalPeriod calls < 2 ^ 31) →
        (totalPeriod calls : Int) = advances calls * osc.oscPhaseMax.toNat + finalPhase osc calls := by
  have hphase : osc.InPhase := by
    rw [FSKOsc.inPhase_iff, hstart]
    exact Nat.zero_le _
  have hzero : osc.oscPhaseCurrent.toNat = 0 := by
    rw [hstart]
    rfl
  refine ⟨⟨fun h bit => ?_, fun hslow n bits calls h => ?_⟩, fun hslow bits => ?_,
    fun n bits calls h hfits => ?_⟩
  · by_contra hlong
    obtain ⟨n, bits, calls, hcalls, call, hcall, hout⟩ :=
      fskOscDrive_leaves (Nat.lt_of_not_le hlong) hphase
    exact hout (h n bits calls hcalls call hcall)
  · exact (fskOscCalls_of_drive h).inPhase hslow hphase
  · exact fskOscDrive_enough hslow hfreq hphase (Nat.le_add_right _ _)
  · have hsum := (fskOscCalls_of_drive h).conserves
      (hfits.symm.imp (fun hfits => by omega) fun hslow => ⟨hslow, hphase⟩)
    rw [hzero] at hsum
    exact (Int.zero_add _).symm.trans hsum

/-- The oscillator of most encoders. -/
theorem fskOscDrive_conserves_two :
    ∃ calls, fskOscDrive (51 * 2) (fskOscAlloc 8 10 50) [false, true] = some calls ∧
      advances calls = 2 :=
  (fskOscDrive_conserves (fskOscAlloc 8 10 50) rfl (by decide)).2.1 (by decide) [false, true]

/-- With periods of eight and bits of five, six is left over behind the second bit. -/
theorem not_fskOscDrive_inPhase :
    (∀ bit, (fskOscAlloc 8 8 5).freq bit ≠ 0) ∧
      ∃ calls, fskOscDrive 2 (fskOscAlloc 8 8 5) [false, false] = some calls ∧
        ∃ call ∈ calls, ¬call.osc.InPhase := by
  refine ⟨by decide, _, rfl, _, List.mem_cons_of_mem _ (List.mem_singleton_self _), ?_⟩
  decide

end FlipperZero
