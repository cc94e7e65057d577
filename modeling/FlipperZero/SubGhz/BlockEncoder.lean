import FlipperZero.SubGhz.SubGhzWorker
import Mathlib.Algebra.Order.BigOperators.Group.List
import Mathlib.Algebra.Order.Group.Nat

/-!
# Uploads from bits

`blocks/encoder.c`: bits of an array, and the upload that sends them, one entry for each run of equal
bits. The entries are written behind each other into an array; the capacity is compared in the loop
with a strict sign the wrong way, and not at all behind the loop.
-/

namespace FlipperZero

open Foundation

/-! ### Bits of an array -/

/-- `subghz_protocol_blocks_get_bit_array`: the highest bit of a byte comes first. -/
def subghzProtocolBlocksGetBitArray (dataArray : Nat → BitVec 8) (readIndexBit : Nat) : Bool :=
  (dataArray (readIndexBit / 8)).getLsbD (7 - readIndexBit % 8)

inductive SubGhzProtocolBlockAlignBit where
  | left
  | right
  deriving DecidableEq, Repr

/-- The bit at which `subghz_protocol_blocks_get_upload_from_bit_array` starts. -/
def biasBit (countBitDataArray : Nat) : SubGhzProtocolBlockAlignBit → Nat
  | .left  => 0
  | .right => if countBitDataArray % 8 ≠ 0 then 8 - countBitDataArray % 8 else 0

/-! ### The upload -/

/-- What becomes of an upload: the entries that are written before `furi_crash`, or all of them. -/
inductive SubGhzUpload where
  | crash (upload : List (Bool × BitVec 30))
  | done (upload : List (Bool × BitVec 30))
  deriving DecidableEq, Repr

def SubGhzUpload.written : SubGhzUpload → List (Bool × BitVec 30)
  | .crash upload => upload
  | .done upload  => upload

/-- The loop of `subghz_protocol_blocks_get_upload_from_bit_array` over the bits that are left, and
the write behind it. -/
def subghzProtocolBlocksUploadLoop (dataArray : Nat → BitVec 8) (maxSizeUpload : Nat)
    (durationBit : BitVec 32) :
    Nat → Nat → Bool → BitVec 32 → List (Bool × BitVec 30) → SubGhzUpload
  | 0, indexBit, _, duration, upload =>
    .done (upload ++
      [levelDurationMake (subghzProtocolBlocksGetBitArray dataArray (indexBit - 1)) duration])
  | left + 1, indexBit, lastBit, duration, upload =>
    if lastBit = subghzProtocolBlocksGetBitArray dataArray indexBit then
      subghzProtocolBlocksUploadLoop dataArray maxSizeUpload durationBit left (indexBit + 1) lastBit
        (duration + durationBit) upload
    else if maxSizeUpload < upload.length then .crash upload
    else
      subghzProtocolBlocksUploadLoop dataArray maxSizeUpload durationBit left (indexBit + 1)
        (!lastBit) durationBit (upload ++
          [levelDurationMake (subghzProtocolBlocksGetBitArray dataArray (indexBit - 1)) duration])

def subghzProtocolBlocksGetUploadFromBitArray (dataArray : Nat → BitVec 8)
    (countBitDataArray maxSizeUpload : Nat) (durationBit : BitVec 32)
    (alignBit : SubGhzProtocolBlockAlignBit) : SubGhzUpload :=
  let bias := biasBit countBitDataArray alignBit
  subghzProtocolBlocksUploadLoop dataArray maxSizeUpload durationBit (countBitDataArray - 1)
    (bias + 1) (subghzProtocolBlocksGetBitArray dataArray bias) durationBit []

def selectedBits (dataArray : Nat → BitVec 8) (count : Nat) (bias : Nat) : List Bool :=
  (List.range count).map fun i => subghzProtocolBlocksGetBitArray dataArray (bias + i)

/-! ### Entries and runs -/

def runEntry (durationBit : BitVec 32) (run : Bool × Nat) : Bool × BitVec 30 :=
  levelDurationMake run.1 (BitVec.ofNat 32 run.2 * durationBit)

variable {dataArray : Nat → BitVec 8} {maxSizeUpload : Nat} {durationBit : BitVec 32}

lemma selectedBits_succ (left indexBit : Nat) :
    selectedBits dataArray (left + 1) indexBit =
      subghzProtocolBlocksGetBitArray dataArray indexBit ::
        selectedBits dataArray left (indexBit + 1) := by
  rw [selectedBits, List.range_succ_eq_map, List.map_cons, List.map_map, selectedBits]
  congr 1
  refine List.map_congr_left fun i _ => ?_
  rw [Function.comp_apply, Nat.succ_eq_add_one, Nat.add_assoc, Nat.add_comm 1 i]

/-- The runs of the bits that are left, behind a run of `n` bits. -/
def runsLeft (dataArray : Nat → BitVec 8) (left indexBit : Nat) (lastBit : Bool) (n : Nat) :
    List (Bool × Nat) :=
  runsFrom 0 lastBit n ((selectedBits dataArray left indexBit).map (·, 1))

lemma runsLeft_same {left indexBit n : Nat} {lastBit : Bool}
    (h : lastBit = subghzProtocolBlocksGetBitArray dataArray indexBit) :
    runsLeft dataArray (left + 1) indexBit lastBit n =
      runsLeft dataArray left (indexBit + 1) lastBit (n + 1) := by
  rw [runsLeft, selectedBits_succ, List.map_cons, runsFrom, if_pos (.inr h)]
  rfl

lemma runsLeft_next {left indexBit n : Nat} {lastBit : Bool}
    (h : lastBit ≠ subghzProtocolBlocksGetBitArray dataArray indexBit) :
    runsLeft dataArray (left + 1) indexBit lastBit n =
      (lastBit, n) :: runsLeft dataArray left (indexBit + 1) (!lastBit) 1 := by
  have hbit : (!lastBit) = subghzProtocolBlocksGetBitArray dataArray indexBit := by
    cases lastBit <;> cases hget : subghzProtocolBlocksGetBitArray dataArray indexBit <;> simp_all
  rw [runsLeft, selectedBits_succ, List.map_cons, runsFrom, if_neg (by simpa using h), ← hbit]
  rfl

/-- Up to one run more than the capacity and one the loop writes the entries of all runs; above that
it stops with one entry too much. -/
lemma uploadLoop_eq (left : Nat) : ∀ {indexBit n : Nat} {lastBit : Bool}
    {upload : List (Bool × BitVec 30)},
    subghzProtocolBlocksGetBitArray dataArray (indexBit - 1) = lastBit →
    upload.length ≤ maxSizeUpload + 1 →
    (upload.length + (runsLeft dataArray left indexBit lastBit n).length ≤ maxSizeUpload + 2 →
      subghzProtocolBlocksUploadLoop dataArray maxSizeUpload durationBit left indexBit lastBit
          (BitVec.ofNat 32 n * durationBit) upload =
        .done (upload ++
          (runsLeft dataArray left indexBit lastBit n).map (runEntry durationBit))) ∧
      (maxSizeUpload + 2 <
          upload.length + (runsLeft dataArray left indexBit lastBit n).length →
        ∃ written, subghzProtocolBlocksUploadLoop dataArray maxSizeUpload durationBit left indexBit
            lastBit (BitVec.ofNat 32 n * durationBit) upload = .crash written ∧
          written.length = maxSizeUpload + 1) := by
  induction left with
  | zero =>
    intro indexBit n lastBit upload hlast hlen
    refine ⟨fun _ => ?_, fun h => ?_⟩
    · rw [subghzProtocolBlocksUploadLoop, hlast]
      rfl
    · have hone : (runsLeft dataArray 0 indexBit lastBit n).length = 1 := rfl
      omega
  | succ left ih =>
    intro indexBit n lastBit upload hlast hlen
    rw [subghzProtocolBlocksUploadLoop]
    by_cases hbit : lastBit = subghzProtocolBlocksGetBitArray dataArray indexBit
    · have hduration : BitVec.ofNat 32 n * durationBit + durationBit =
          BitVec.ofNat 32 (n + 1) * durationBit := by
        rw [BitVec.ofNat_add, BitVec.add_mul, BitVec.one_mul]
      rw [if_pos hbit, hduration, runsLeft_same hbit]
      exact ih hbit.symm hlen
    · rw [if_neg hbit, runsLeft_next hbit, List.length_cons]
      have hone : BitVec.ofNat 32 1 * durationBit = durationBit := BitVec.one_mul _
      have hnext : subghzProtocolBlocksGetBitArray dataArray indexBit = !lastBit := by
        cases lastBit <;> cases hget : subghzProtocolBlocksGetBitArray dataArray indexBit <;>
          simp_all
      obtain ⟨m, rest, hruns, -⟩ := exists_runsFrom_eq_cons 0 (!lastBit) 1
        ((selectedBits dataArray left (indexBit + 1)).map (·, 1))
      have hpos : 0 < (runsLeft dataArray left (indexBit + 1) (!lastBit) 1).length := by
        rw [runsLeft, hruns]
        exact Nat.succ_pos _
      by_cases hfull : maxSizeUpload < upload.length
      · rw [if_pos hfull]
        exact ⟨fun h => by omega, fun _ => ⟨upload, rfl, by omega⟩⟩
      · rw [if_neg hfull, hlast]
        have hrest := @ih (indexBit + 1) 1 (!lastBit)
          (upload ++ [levelDurationMake lastBit (BitVec.ofNat 32 n * durationBit)])
          hnext (by rw [List.length_append, List.length_singleton]; omega)
        rw [hone, List.length_append, List.length_singleton] at hrest
        refine ⟨fun h => ?_, fun h => hrest.2 (by omega)⟩
        rw [hrest.1 (by omega), List.append_assoc]
        rfl

/-! ### Uploads of bits -/

/-- The bits that entries send. -/
def sentBits (durationBit : BitVec 32) (upload : List (Bool × BitVec 30)) : List Bool :=
  upload.flatMap fun e => List.replicate (e.2.toNat / durationBit.toNat) e.1

/-- No entry is written behind the array, and an upload that comes to its end alternates and sends
the bits. -/
def SubGhzUpload.Sends (r : SubGhzUpload) (maxSizeUpload : Nat) (durationBit : BitVec 32)
    (bits : List Bool) : Prop :=
  r.written.length ≤ maxSizeUpload ∧ ∀ upload, r = .done upload →
    upload.IsChain (fun e e' => e'.1 = !e.1) ∧
      (∀ e ∈ upload, durationBit.toNat ∣ e.2.toNat) ∧ sentBits durationBit upload = bits

lemma toNat_runEntry (durationBit : BitVec 32) (run : Bool × Nat) :
    (runEntry durationBit run).2.toNat = run.2 * durationBit.toNat % 2 ^ 30 := by
  rw [runEntry, levelDurationMake, BitVec.toNat_setWidth, BitVec.toNat_mul, BitVec.toNat_ofNat,
    Nat.mod_mul_mod, Nat.mod_mod_of_dvd _ (by decide)]

lemma toNat_runEntry_of_lt {run : Bool × Nat} (h : run.2 * durationBit.toNat < 2 ^ 30) :
    (runEntry durationBit run).2.toNat = run.2 * durationBit.toNat := by
  rw [toNat_runEntry, Nat.mod_eq_of_lt h]

lemma sentBits_map_runEntry (runs : List (Bool × Nat)) :
    sentBits durationBit (runs.map (runEntry durationBit)) = runs.flatMap fun run =>
      List.replicate (run.2 * durationBit.toNat % 2 ^ 30 / durationBit.toNat) run.1 := by
  rw [sentBits, List.flatMap_map]
  refine List.flatMap_congr fun run _ => ?_
  rw [toNat_runEntry]
  rfl

lemma sentBits_eq_iff {runs : List (Bool × Nat)} (hruns : runs ≠ [])
    (hpos : ∀ run ∈ runs, 0 < run.2) :
    sentBits durationBit (runs.map (runEntry durationBit)) = expandRuns runs ↔
      0 < durationBit.toNat ∧ ∀ run ∈ runs, run.2 * durationBit.toNat < 2 ^ 30 := by
  rw [sentBits_map_runEntry, expandRuns]
  constructor
  · intro h
    have hsum := congrArg List.length h
    simp only [List.length_flatMap, List.length_replicate] at hsum
    have hle : ∀ run ∈ runs, run.2 * durationBit.toNat % 2 ^ 30 / durationBit.toNat ≤ run.2 :=
      fun run _ => Nat.div_le_of_le_mul
        (Nat.le_trans (Nat.mod_le _ _) (Nat.le_of_eq (Nat.mul_comm _ _)))
    have heq : ∀ run ∈ runs,
        run.2 * durationBit.toNat % 2 ^ 30 / durationBit.toNat = run.2 := by
      intro run hrun
      by_contra hne
      exact absurd hsum (Nat.ne_of_lt (List.sum_lt_sum _ _ hle
        ⟨run, hrun, Nat.lt_of_le_of_ne (hle run hrun) hne⟩))
    have hdur : 0 < durationBit.toNat := by
      obtain ⟨run, hrun⟩ := List.exists_mem_of_ne_nil runs hruns
      refine Nat.pos_of_ne_zero fun hzero => ?_
      have hdiv := heq run hrun
      rw [hzero, Nat.div_zero] at hdiv
      exact absurd hdiv (Nat.ne_of_lt (hpos run hrun))
    refine ⟨hdur, fun run hrun => ?_⟩
    have hmul := Nat.div_mul_le_self (run.2 * durationBit.toNat % 2 ^ 30) durationBit.toNat
    rw [heq run hrun] at hmul
    exact Nat.lt_of_le_of_lt hmul (Nat.mod_lt _ (by decide))
  · rintro ⟨hdur, hlt⟩
    refine List.flatMap_congr fun run hrun => ?_
    rw [Nat.mod_eq_of_lt (hlt run hrun), Nat.mul_div_cancel _ hdur]

lemma isChain_map_runEntry (runs : List (Bool × Nat)) (h : runs.IsChain OppositeLevels) :
    (runs.map (runEntry durationBit)).IsChain fun e e' => e'.1 = !e.1 := by
  rw [List.isChain_map]
  exact h

lemma selectedBits_eq_cons {count : Nat} (hcount : 1 ≤ count) (bias : Nat) :
    selectedBits dataArray count bias = subghzProtocolBlocksGetBitArray dataArray bias ::
      selectedBits dataArray (count - 1) (bias + 1) := by
  obtain ⟨n, rfl⟩ : ∃ n, count = n + 1 := ⟨count - 1, by omega⟩
  exact selectedBits_succ n bias

lemma getUploadFromBitArray_eq (dataArray : Nat → BitVec 8) {countBitDataArray : Nat}
    (hcount : 1 ≤ countBitDataArray) (maxSizeUpload : Nat) (durationBit : BitVec 32)
    (alignBit : SubGhzProtocolBlockAlignBit) :
    let runs := bitRuns
      (selectedBits dataArray countBitDataArray (biasBit countBitDataArray alignBit))
    let r := subghzProtocolBlocksGetUploadFromBitArray dataArray countBitDataArray maxSizeUpload
      durationBit alignBit
    (runs.length ≤ maxSizeUpload + 2 → r = .done (runs.map (runEntry durationBit))) ∧
      (maxSizeUpload + 2 < runs.length →
        ∃ written, r = .crash written ∧ written.length = maxSizeUpload + 1) := by
  intro runs r
  have hloop := @uploadLoop_eq dataArray maxSizeUpload durationBit (countBitDataArray - 1)
    (biasBit countBitDataArray alignBit + 1) 1
    (subghzProtocolBlocksGetBitArray dataArray (biasBit countBitDataArray alignBit)) []
    rfl (Nat.zero_le _)
  have hruns : runs = runsLeft dataArray (countBitDataArray - 1)
      (biasBit countBitDataArray alignBit + 1)
      (subghzProtocolBlocksGetBitArray dataArray (biasBit countBitDataArray alignBit)) 1 := by
    rw [runsLeft]
    exact congrArg bitRuns (selectedBits_eq_cons hcount _)
  have hone : BitVec.ofNat 32 1 * durationBit = durationBit := BitVec.one_mul _
  rw [← hruns, List.length_nil, Nat.zero_add, hone, List.nil_append] at hloop
  exact hloop

/-- The upload sends the selected bits, and writes inside its array, exactly if the bits have no
more runs than the array has entries, and no run is longer than the 30 bits of an entry hold. -/
theorem getUploadFromBitArray_sends_iff (dataArray : Nat → BitVec 8) (countBitDataArray : Nat)
    (hcount : 1 ≤ countBitDataArray) (maxSizeUpload : Nat) (durationBit : BitVec 32)
    (alignBit : SubGhzProtocolBlockAlignBit) :
    let bits := selectedBits dataArray countBitDataArray (biasBit countBitDataArray alignBit)
    (subghzProtocolBlocksGetUploadFromBitArray dataArray countBitDataArray maxSizeUpload durationBit
        alignBit).Sends maxSizeUpload durationBit bits ↔
      (bitRuns bits).length ≤ maxSizeUpload ∧ 0 < durationBit.toNat ∧
        ∀ run ∈ bitRuns bits, run.2 * durationBit.toNat < 2 ^ 30 := by
  intro bits
  have hbits : bits ≠ [] := by
    rw [show bits = _ from selectedBits_eq_cons hcount _]
    exact List.cons_ne_nil _ _
  obtain ⟨hdone, hcrash⟩ :=
    getUploadFromBitArray_eq dataArray hcount maxSizeUpload durationBit alignBit
  rcases Nat.lt_or_ge (maxSizeUpload + 2) (bitRuns bits).length with hlong | hshort
  · obtain ⟨written, hr, hlen⟩ := hcrash hlong
    rw [hr]
    constructor
    · rintro ⟨hle, -⟩
      rw [SubGhzUpload.written, hlen] at hle
      exact absurd hle (Nat.not_succ_le_self _)
    · rintro ⟨hle, -⟩
      omega
  · have hsent := @sentBits_eq_iff durationBit (bitRuns bits) (bitRuns_ne_nil hbits)
      pos_of_mem_bitRuns
    rw [expandRuns_bitRuns] at hsent
    rw [hdone hshort, SubGhzUpload.Sends, SubGhzUpload.written, List.length_map]
    constructor
    · rintro ⟨hle, hsends⟩
      obtain ⟨-, -, heq⟩ := hsends _ rfl
      exact ⟨hle, hsent.mp heq⟩
    · rintro ⟨hle, hfit⟩
      refine ⟨hle, fun upload heq => ?_⟩
      obtain rfl := (SubGhzUpload.done.inj heq).symm
      refine ⟨isChain_map_runEntry _ (isChain_bitRuns bits), fun e he => ?_, hsent.mpr hfit⟩
      obtain ⟨run, hrun, rfl⟩ := List.mem_map.mp he
      rw [toNat_runEntry_of_lt (hfit.2 run hrun)]
      exact Nat.dvd_mul_left _ _

/-- Two runs into an array of two entries. -/
theorem getUploadFromBitArray_sends_iff_two :
    (subghzProtocolBlocksGetUploadFromBitArray (fun _ => 0x40) 2 2 500 .left).Sends 2 500
        [false, true] ↔
      (bitRuns [false, true]).length ≤ 2 ∧ 0 < (500 : BitVec 32).toNat ∧
        ∀ run ∈ bitRuns [false, true], run.2 * (500 : BitVec 32).toNat < 2 ^ 30 :=
  getUploadFromBitArray_sends_iff (fun _ => 0x40) 2 (by decide) 2 500 .left

/-- Two runs into an array of one entry: the second is written behind the array. -/
theorem not_getUploadFromBitArray_sends_two :
    ¬(subghzProtocolBlocksGetUploadFromBitArray (fun _ => 0x40) 2 1 500 .left).Sends 1 500
        [false, true] := by
  rintro ⟨hle, -⟩
  exact absurd hle (by decide)

end FlipperZero
