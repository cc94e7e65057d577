import FlipperZero.Foundation.System
import FlipperZero.SubGhz.Raw

/-!
# The RAW recorder when writes fail

The recorder collects numbers in an array of 512. A full array is written to the file and emptied,
but it is emptied only when the write succeeds, and it counts as full only when the index is exactly
512. A write that fails may have put some of the numbers in the file.
-/

namespace FlipperZero

open Foundation

/-! ### The recorder -/

/-- An entry of the array or of the file, with the feed that it comes from. -/
structure RawCell where
  number : Int32
  fed : Option Nat
  deriving DecidableEq

/-- What a write of numbers comes to: whether it succeeds, and how many numbers a failed one has put
in the file. -/
structure RawWrite where
  result : Bool
  written : Nat
  deriving DecidableEq

/-- `SubGhzProtocolDecoderRAW`. The file is the list of its numbers. `fed` counts the calls of
`feed`, and `stores` has the indexes of the array that have been written to. -/
structure RawDecoder where
  uploadRaw : Option (Nat → RawCell)
  indWrite : BitVec 16
  fileIsOpen : Bool
  sampleWrite : Nat
  lastLevel : Bool
  pause : Bool
  flipperFile : List RawCell
  fed : Nat
  stores : List Nat

namespace RawDecoder

/-- `subghz_protocol_decoder_raw_alloc`. -/
def alloc : RawDecoder where
  uploadRaw := none
  indWrite := 0
  fileIsOpen := false
  sampleWrite := 0
  lastLevel := false
  pause := false
  flipperFile := []
  fed := 0
  stores := []

variable (s : RawDecoder)

/-- The entries below the index. -/
def entries : List RawCell :=
  match s.uploadRaw with
  | some cells => (List.range s.indWrite.toNat).map cells
  | none       => []

/-- `subghz_protocol_raw_save_to_file_init`. The index stays as it is. -/
def saveToFileInit (init : Bool) : RawDecoder :=
  let s := { s with flipperFile := [] }
  if init then
    { s with
      uploadRaw := some fun _ => ⟨0, none⟩
      fileIsOpen := true
      sampleWrite := 0
      lastLevel := false
      pause := false }
  else s

/-- `subghz_protocol_raw_save_to_file_write`. -/
def saveToFileWrite (w : RawWrite) : RawDecoder :=
  if s.fileIsOpen then
    if w.result then
      { s with
        flipperFile := s.flipperFile ++ s.entries
        sampleWrite := s.sampleWrite + s.indWrite.toNat
        indWrite := 0 }
    else { s with flipperFile := s.flipperFile ++ s.entries.take w.written }
  else s

/-- `subghz_protocol_raw_save_to_file_stop`. -/
def saveToFileStop (w : RawWrite) : RawDecoder :=
  let s := if s.fileIsOpen ∧ s.indWrite ≠ 0 then s.saveToFileWrite w else s
  if s.fileIsOpen then { s with uploadRaw := none, fileIsOpen := false } else s

/-- `subghz_protocol_decoder_raw_reset`. -/
def reset : RawDecoder := { s with indWrite := 0, lastLevel := false }

/-- A sample is kept: the array at the index, and the index. -/
def store (cells : Nat → RawCell) (level : Bool) (duration : UInt32) : RawDecoder :=
  { s with
    lastLevel := level
    uploadRaw := some (Function.update cells s.indWrite.toNat
      ⟨(if level then duration else -duration).toInt32, some s.fed⟩)
    indWrite := s.indWrite + 1
    stores := s.stores ++ [s.indWrite.toNat] }

/-- The part of `subghz_protocol_decoder_raw_feed` before the write, and whether the write is made. -/
def kept (level : Bool) (duration : UInt32) : RawDecoder × Bool :=
  match s.uploadRaw with
  | none       => (s, false)
  | some cells =>
    if s.pause = false ∧ duration < 1000000 then
      let s := if 50 < duration ∧ s.lastLevel ≠ level then s.store cells level duration else s
      (s, s.indWrite = 512)
    else (s, false)

/-- `subghz_protocol_decoder_raw_feed`. -/
def feed (level : Bool) (duration : UInt32) (w : RawWrite) : RawDecoder :=
  let r := s.kept level duration
  let s := if r.2 then r.1.saveToFileWrite w else r.1
  { s with fed := s.fed + 1 }

end RawDecoder

/-- The calls of the recorder, with what the write of a call comes to. -/
inductive RawEvent where
  | init (result : Bool)
  | feed (level : Bool) (duration : UInt32) (w : RawWrite)
  | pause (pause : Bool)
  | reset
  | stop (w : RawWrite)

/-- The calls of a recorder, in any order. -/
def rawRecorder : System RawDecoder RawEvent where
  step s
    | .init result           => some (s.saveToFileInit result)
    | .feed level duration w => some (s.feed level duration w)
    | .pause pause           => some { s with pause := pause }
    | .reset                 => some s.reset
    | .stop w                => some (s.saveToFileStop w)

/-! ### Safety -/

/-- The index is in bounds, numbers have been stored inside the array only, and the file has no
sample twice. -/
structure RawDecoder.Safe (s : RawDecoder) : Prop where
  indWrite : s.indWrite.toNat ≤ 512
  stores : ∀ i ∈ s.stores, i < 512
  once : (s.flipperFile.filterMap RawCell.fed).Nodup

/-- A sample that fills the array is written without failure. -/
def FlushSucceeds (s : RawDecoder) : RawEvent → Prop
  | .feed level duration w => (s.kept level duration).2 = true → w.result = true
  | _                      => True

namespace RawDecoder

/-- The samples of the file, and behind them those that wait in the array. -/
def samples (s : RawDecoder) : List Nat :=
  (s.flipperFile ++ s.entries).filterMap RawCell.fed

/-- Between two calls the array is not full, and no sample is in the file or the array twice. -/
structure Inv (s : RawDecoder) : Prop where
  indWrite : s.indWrite.toNat < 512
  stores : ∀ i ∈ s.stores, i < 512
  opened : s.uploadRaw.isSome → s.fileIsOpen = true
  once : s.samples.Nodup
  fed : ∀ m ∈ s.samples, m < s.fed

variable {s t : RawDecoder} {w : RawWrite} {level : Bool} {duration : UInt32}

lemma Inv.safe (h : s.Inv) : s.Safe where
  indWrite := Nat.le_of_lt h.indWrite
  stores := h.stores
  once := by
    have honce := h.once
    rw [samples, List.filterMap_append] at honce
    exact honce.of_append_left

/-- A step that stores nothing and keeps some of the samples keeps the invariant. -/
lemma Inv.sublist (h : s.Inv) (hind : t.indWrite = s.indWrite ∨ t.indWrite = 0)
    (hstores : t.stores = s.stores) (hopened : t.uploadRaw.isSome → t.fileIsOpen = true)
    (hsamples : t.samples.Sublist s.samples) (hfed : s.fed ≤ t.fed) : t.Inv where
  indWrite := by
    rcases hind with hind | hind
    · rw [hind]
      exact h.indWrite
    · rw [hind]
      decide
  stores := by
    rw [hstores]
    exact h.stores
  opened := hopened
  once := h.once.sublist hsamples
  fed := fun m hm => Nat.lt_of_lt_of_le (h.fed m (hsamples.subset hm)) hfed

lemma samples_of_empty (h : t.entries = []) :
    t.samples = t.flipperFile.filterMap RawCell.fed := by
  rw [samples, h, List.append_nil]

lemma entries_of_indWrite (h : s.indWrite = 0) : s.entries = [] := by
  cases hcells : s.uploadRaw with
  | none => simp [entries, hcells]
  | some cells => simp [entries, hcells, h]

lemma entries_of_none (h : s.uploadRaw = none) : s.entries = [] := by simp [entries, h]

lemma filterMap_file_sublist (s : RawDecoder) :
    (s.flipperFile.filterMap RawCell.fed).Sublist s.samples :=
  (List.sublist_append_left _ _).filterMap _

lemma Inv.reset (h : s.Inv) : s.reset.Inv := by
  refine h.sublist (.inr rfl) rfl h.opened ?_ (Nat.le_refl _)
  rw [samples_of_empty (entries_of_indWrite rfl)]
  exact filterMap_file_sublist s

lemma Inv.saveToFileInit (h : s.Inv) (init : Bool) : (s.saveToFileInit init).Inv := by
  cases init with
  | false =>
    refine h.sublist (.inl rfl) rfl h.opened ?_ (Nat.le_refl _)
    exact (List.sublist_append_right _ _).filterMap _
  | true =>
    refine h.sublist (.inl rfl) rfl (fun _ => rfl) ?_ (Nat.le_refl _)
    have hzero (n : Nat) : ((List.range n).map fun _ => (⟨0, none⟩ : RawCell)).filterMap RawCell.fed =
        [] := by
      simp
    have hnone : (s.saveToFileInit true).samples = [] := hzero _
    rw [hnone]
    exact List.nil_sublist _

lemma fileIsOpen_saveToFileWrite (s : RawDecoder) (w : RawWrite) :
    (s.saveToFileWrite w).fileIsOpen = s.fileIsOpen := by
  rw [saveToFileWrite]
  split_ifs <;> rfl

lemma samples_saveToFileWrite (hopen : s.fileIsOpen = true) (hw : w.result = true) :
    (s.saveToFileWrite w).indWrite = 0 ∧ (s.saveToFileWrite w).stores = s.stores ∧
      (s.saveToFileWrite w).samples = s.samples ∧ (s.saveToFileWrite w).fed = s.fed ∧
      (s.saveToFileWrite w).fileIsOpen = true := by
  have hwritten : s.saveToFileWrite w = { s with
      flipperFile := s.flipperFile ++ s.entries
      sampleWrite := s.sampleWrite + s.indWrite.toNat
      indWrite := 0 } := by
    rw [saveToFileWrite, if_pos hopen, if_pos hw]
  rw [hwritten]
  exact ⟨rfl, rfl, samples_of_empty (entries_of_indWrite rfl), rfl, hopen⟩

lemma Inv.saveToFileStop (h : s.Inv) (w : RawWrite) : (s.saveToFileStop w).Inv := by
  by_cases hopen : s.fileIsOpen = true
  · by_cases hind : s.indWrite = 0
    · have hstop : s.saveToFileStop w = { s with uploadRaw := none, fileIsOpen := false } := by
        simp [RawDecoder.saveToFileStop, hopen, hind]
      rw [hstop]
      refine h.sublist (.inl rfl) rfl (fun hnone => absurd hnone Bool.false_ne_true) ?_ (Nat.le_refl _)
      rw [samples_of_empty (entries_of_none rfl)]
      exact filterMap_file_sublist s
    · have hstop : s.saveToFileStop w =
          { s.saveToFileWrite w with uploadRaw := none, fileIsOpen := false } := by
        simp only [RawDecoder.saveToFileStop, hopen, hind, ne_eq, not_false_eq_true, and_self,
          if_true, fileIsOpen_saveToFileWrite]
      rw [hstop]
      cases hw : w.result with
      | true =>
        obtain ⟨hzero, hstores, hsamples, hfed, -⟩ := samples_saveToFileWrite hopen hw
        refine h.sublist (.inr hzero) hstores (fun hnone => absurd hnone Bool.false_ne_true) ?_
          (Nat.le_of_eq hfed.symm)
        rw [samples_of_empty (entries_of_none rfl), ← hsamples]
        exact filterMap_file_sublist (s.saveToFileWrite w)
      | false =>
        -- some of the numbers are in the file, and the array is gone
        have hpart : s.saveToFileWrite w =
            { s with flipperFile := s.flipperFile ++ s.entries.take w.written } := by
          rw [saveToFileWrite, if_pos hopen, hw, if_neg Bool.false_ne_true]
        rw [hpart]
        refine h.sublist (.inl rfl) rfl (fun hnone => absurd hnone Bool.false_ne_true) ?_
          (Nat.le_refl _)
        rw [samples_of_empty (entries_of_none rfl)]
        exact ((List.take_sublist _ _).append_left _).filterMap _
  · have hstop : s.saveToFileStop w = s := by
      simp [RawDecoder.saveToFileStop, hopen]
    rw [hstop]
    exact h

/-! ### A sample -/

/-- What holds between the store of a sample and the write that it may lead to: an array that is not
written has room. -/
structure Held (s : RawDecoder) (r : RawDecoder × Bool) : Prop where
  room : r.2 = false → r.1.indWrite.toNat < 512
  stores : ∀ i ∈ r.1.stores, i < 512
  opened : r.1.uploadRaw.isSome → r.1.fileIsOpen = true
  written : r.2 = true → r.1.fileIsOpen = true
  once : r.1.samples.Nodup
  below : ∀ m ∈ r.1.samples, m < s.fed + 1
  fed : r.1.fed = s.fed

lemma Inv.held (h : s.Inv) {full : Bool} (hfull : full = true → s.fileIsOpen = true) :
    s.Held (s, full) where
  room := fun _ => h.indWrite
  stores := h.stores
  opened := h.opened
  written := hfull
  once := h.once
  below := fun m hm => Nat.lt_succ_of_lt (h.fed m hm)
  fed := rfl

lemma Inv.succ_indWrite (h : s.Inv) : (s.indWrite + 1).toNat = s.indWrite.toNat + 1 := by
  have hlt := h.indWrite
  rw [BitVec.toNat_add]
  exact Nat.mod_eq_of_lt (by simp; omega)

lemma Inv.samples_store (h : s.Inv) {cells : Nat → RawCell} (hcells : s.uploadRaw = some cells)
    (level : Bool) (duration : UInt32) :
    (s.store cells level duration).samples = s.samples ++ [s.fed] := by
  have hold : (List.range s.indWrite.toNat).map (Function.update cells s.indWrite.toNat
      ⟨(if level then duration else -duration).toInt32, some s.fed⟩) =
        (List.range s.indWrite.toNat).map cells := by
    apply List.map_congr_left
    intro i hi
    exact Function.update_of_ne (Nat.ne_of_lt (List.mem_range.mp hi)) _ _
  have hentries : (s.store cells level duration).entries =
      s.entries ++ [⟨(if level then duration else -duration).toInt32, some s.fed⟩] := by
    simp only [entries, store, hcells, h.succ_indWrite, List.range_succ, List.map_append, hold,
      List.map_cons, List.map_nil, Function.update_self]
  rw [samples, hentries, ← List.append_assoc, List.filterMap_append]
  rfl

lemma Inv.held_store (h : s.Inv) {cells : Nat → RawCell} (hcells : s.uploadRaw = some cells)
    (level : Bool) (duration : UInt32) :
    s.Held (s.store cells level duration, (s.store cells level duration).indWrite = 512) where
  room := by
    intro hroom
    have hne : (s.store cells level duration).indWrite ≠ 512 := of_decide_eq_false hroom
    have hsucc : (s.store cells level duration).indWrite.toNat = s.indWrite.toNat + 1 :=
      h.succ_indWrite
    have hlt := h.indWrite
    have hfull : (s.store cells level duration).indWrite.toNat ≠ 512 :=
      fun heq => hne (BitVec.eq_of_toNat_eq heq)
    show (s.store cells level duration).indWrite.toNat < 512
    omega
  stores := by
    intro i hi
    rcases List.mem_append.mp hi with hold | hnew
    · exact h.stores i hold
    · rw [List.mem_singleton.mp hnew]
      exact h.indWrite
  opened := fun _ => h.opened (by rw [hcells]; rfl)
  written := fun _ => h.opened (by rw [hcells]; rfl)
  once := by
    rw [h.samples_store hcells]
    refine List.nodup_append.mpr ⟨h.once, List.nodup_singleton _, ?_⟩
    rintro m hm n hn rfl
    rw [List.mem_singleton.mp hn] at hm
    exact Nat.lt_irrefl _ (h.fed _ hm)
  below := by
    intro m hm
    rw [h.samples_store hcells] at hm
    rcases List.mem_append.mp hm with hold | hnew
    · exact Nat.lt_succ_of_lt (h.fed m hold)
    · rw [List.mem_singleton.mp hnew]
      exact Nat.lt_succ_self _
  fed := rfl

lemma Inv.kept (h : s.Inv) (level : Bool) (duration : UInt32) : s.Held (s.kept level duration) := by
  unfold RawDecoder.kept
  split
  · exact h.held fun hfull => absurd hfull Bool.false_ne_true
  · next cells hcells =>
    have hopen : s.fileIsOpen = true := h.opened (by rw [hcells]; rfl)
    split_ifs with hfeed hkept
    · exact h.held_store hcells level duration
    · exact h.held fun _ => hopen
    · exact h.held fun hfull => absurd hfull Bool.false_ne_true

/-- A feed keeps the invariant when the write of a full array succeeds. -/
lemma Inv.feed (h : s.Inv) (hflush : (s.kept level duration).2 = true → w.result = true) :
    (s.feed level duration w).Inv := by
  obtain ⟨hroom, hstores, hopened, hwritten, honce, hbelow, hfed⟩ := h.kept level duration
  cases hfull : (s.kept level duration).2 with
  | false =>
    have hfeed : s.feed level duration w =
        { (s.kept level duration).1 with fed := s.fed + 1 } := by
      simp only [RawDecoder.feed, hfull, Bool.false_eq_true, if_false, hfed]
    rw [hfeed]
    exact ⟨hroom hfull, hstores, hopened, honce, hbelow⟩
  | true =>
    obtain ⟨hzero, hkept, hsamples, -, hopen⟩ :=
      samples_saveToFileWrite (hwritten hfull) (hflush hfull)
    have hfeed : s.feed level duration w =
        { (s.kept level duration).1.saveToFileWrite w with
          fed := ((s.kept level duration).1.saveToFileWrite w).fed + 1 } := by
      simp only [RawDecoder.feed, hfull, if_true]
    have hcount : ((s.kept level duration).1.saveToFileWrite w).fed = s.fed := by
      rw [← hfed, saveToFileWrite]
      split_ifs <;> rfl
    rw [hfeed, hcount]
    refine ⟨?_, ?_, fun _ => hopen, ?_, ?_⟩
    · show ((s.kept level duration).1.saveToFileWrite w).indWrite.toNat < 512
      rw [hzero]
      decide
    · show ∀ i ∈ ((s.kept level duration).1.saveToFileWrite w).stores, i < 512
      rw [hkept]
      exact hstores
    · show ((s.kept level duration).1.saveToFileWrite w).samples.Nodup
      rw [hsamples]
      exact honce
    · show ∀ m ∈ ((s.kept level duration).1.saveToFileWrite w).samples, m < s.fed + 1
      rw [hsamples]
      exact hbelow

lemma inv_alloc : alloc.Inv where
  indWrite := by decide
  stores := fun _ hi => absurd hi List.not_mem_nil
  opened := fun hsome => absurd hsome Bool.false_ne_true
  once := List.nodup_nil
  fed := fun _ hm => absurd hm List.not_mem_nil

/-- Every call keeps the invariant, when no write of a full array fails. -/
lemma Inv.step {e : RawEvent} (h : s.Inv) (hflush : FlushSucceeds s e)
    (hstep : rawRecorder.step s e = some t) : t.Inv := by
  cases e with
  | init result =>
    obtain rfl := Option.some.inj hstep
    exact h.saveToFileInit result
  | feed level duration w =>
    obtain rfl := Option.some.inj hstep
    exact h.feed hflush
  | pause pause =>
    obtain rfl := Option.some.inj hstep
    exact ⟨h.indWrite, h.stores, h.opened, h.once, h.fed⟩
  | reset =>
    obtain rfl := Option.some.inj hstep
    exact h.reset
  | stop w =>
    obtain rfl := Option.some.inj hstep
    exact h.saveToFileStop w

end RawDecoder

/-- In a run of the recorder in which no write of a full array fails, the index stays in bounds, all
samples are stored inside the array and no sample is in the file twice. -/
theorem rawRecorder_safe {s : RawDecoder}
    (hrun : rawRecorder.Reaches FlushSucceeds RawDecoder.alloc s) : s.Safe :=
  (hrun.invariant RawDecoder.inv_alloc fun _ _ _ h hflush hstep => h.step hflush hstep).safe

/-- Two samples are recorded, and the card is removed before the recording is stopped. -/
theorem rawRecorder_safe_removed :
    (((((RawDecoder.alloc.saveToFileInit true).feed true 100 ⟨true, 0⟩).feed false 200
      ⟨true, 0⟩).saveToFileStop ⟨false, 1⟩)).Safe :=
  rawRecorder_safe ((((System.Reaches.refl.step (e := .init true) trivial rfl).step
    (e := .feed true 100 ⟨true, 0⟩) (fun _ => rfl) rfl).step
    (e := .feed false 200 ⟨true, 0⟩) (fun _ => rfl) rfl).step (e := .stop ⟨false, 1⟩) trivial rfl)

/-! ### A full array that is not written -/

/-- Samples of alternating levels, with writes that all fail. -/
def alternatingFeeds (n : Nat) : List RawEvent :=
  (List.range n).map fun i => .feed (i % 2 = 0) 100 ⟨false, 0⟩

/-- When the write of the full array fails, the next sample is stored behind the array. -/
theorem not_rawRecorder_safe :
    ∃ s, rawRecorder.Reaches (fun _ _ => True) RawDecoder.alloc s ∧ ¬s.Safe := by
  have hrun : ((rawRecorder.replay (fun _ _ => True) RawDecoder.alloc
      (.init true :: alternatingFeeds 513)).map fun s => s.indWrite) = some 513 := by
    decide +kernel
  obtain ⟨s, hs, hind⟩ := Option.map_eq_some_iff.mp hrun
  refine ⟨s, .of_replay .refl hs, fun hsafe => ?_⟩
  have hle := hsafe.indWrite
  rw [hind] at hle
  exact absurd hle (by decide)

end FlipperZero
