import FlipperZero.Storage.EquivalentPath
import FlipperZero.Toolbox.Strint

/-!
# The next free name of a file

`storage_get_next_filename` counts up to the first number whose name is free. The number is left out
when the name of the file is as long as the longest name allowed, or longer: the name returned is
taken then. The counter has 16 bits.
-/

namespace FlipperZero

open Foundation

/-- The path of a file with a number: `"%s/%s%d%s"`, or `"%s/%s%s"` without one. -/
def nextFilenamePath (dirname filename fileextension : CPath) (num : Nat) : CPath :=
  dirname ++ 0x2F :: (filename ++ (if num = 0 then [] else decimalText num) ++ fileextension)

namespace StorageCaller

variable {κ : Type} [DecidableEq κ] (e : StorageCaller κ)

/-- The loop of `storage_get_next_filename`. -/
def storageNextFilenameLoop (dirname filename fileextension : CPath) :
    Nat → Nat → CPath → Program (StorageWorld e.key) Nat
  | 0, _, _             => .stop
  | rounds + 1, num, tempStr => do
    let (error, _) ← e.storageCommonStat tempStr
    if error = .ok then
      let num := (num + 1) % 65536
      storageNextFilenameLoop dirname filename fileextension rounds num
        (dirname ++ 0x2F :: (filename ++ decimalText num ++ fileextension))
    else pure num

def storageGetNextFilename (rounds : Nat) (dirname filename fileextension : CPath)
    (maxLen : UInt8) : Program (StorageWorld e.key) CPath := do
  let num ← e.storageNextFilenameLoop dirname filename fileextension rounds 0
    (dirname ++ 0x2F :: (filename ++ fileextension))
  pure (if num ≠ 0 ∧ filename.length < maxLen.toNat then filename ++ decimalText num else filename)

def Exists (w : StorageWorld e.key) (path : CPath) : Prop :=
  ∃ p, e.find w path = .ok p ∧ (e.statPlace w p).1 = .ok

variable {e} {w : StorageWorld e.key} {path dirname filename fileextension : CPath}

instance : Decidable (e.Exists w path) :=
  match h : e.find w path with
  | .ok p    => decidable_of_iff ((e.statPlace w p).1 = .ok)
      ⟨fun hstat => ⟨p, h, hstat⟩,
        fun ⟨_, hfound, hstat⟩ => by cases h.symm.trans hfound; exact hstat⟩
  | .error _ => .isFalse fun ⟨_, hfound, _⟩ => nomatch h.symm.trans hfound

/-- The cards answer every operation without an error. -/
def NoFailures (e : StorageCaller κ) : Prop := ∀ n, (e.answers n).error = .ok

omit [DecidableEq κ] in
lemma exists_congr {w' : StorageWorld e.key} (h : w'.cards = w.cards) :
    e.Exists w' path ↔ e.Exists w path := by
  cases w
  cases w'
  cases h
  rfl

omit [DecidableEq κ] in
lemma find_error_ne_ok {error : FSError} (h : e.find w path = .error error) : error ≠ .ok := by
  unfold find at h
  split at h
  · cases h
    exact FSError.noConfusion
  · cases h
  · cases h
    split_ifs <;> exact FSError.noConfusion

omit [DecidableEq κ] in
lemma storageCommonStat_exists (h : e.NoFailures) (w : StorageWorld e.key) (path : CPath) :
    ∃ r, (e.storageCommonStat path).Returns w r (w.record .other) ∧
      (r.1 = .ok ↔ e.Exists w path) := by
  refine ⟨_, rfl, ?_⟩
  dsimp only
  unfold Exists
  cases hp : e.find w path with
  | error error =>
    -- a path that leads nowhere is never found without an error
    refine ⟨fun herror => absurd herror (find_error_ne_ok hp), ?_⟩
    rintro ⟨_, hfound, -⟩
    cases hfound
  | ok p =>
    have hok : (e.answer w).error = .ok := h _
    simp only [if_pos hok]
    refine ⟨fun hstat => ⟨p, rfl, hstat⟩, ?_⟩
    rintro ⟨_, hfound, hstat⟩
    cases hfound
    exact hstat

omit [DecidableEq κ] in
/-- From a number on, the loop finds the first number whose name is free. -/
lemma storageNextFilenameLoop_free (h : e.NoFailures) {n rounds num : Nat} (hn : n < 65536)
    (hfree : ¬ e.Exists w (nextFilenamePath dirname filename fileextension n)) (hle : num ≤ n)
    (hrounds : n < num + rounds) :
    ∃ m w', (e.storageNextFilenameLoop dirname filename fileextension rounds num
        (nextFilenamePath dirname filename fileextension num)).Returns w m w' ∧
      w'.cards = w.cards ∧ m ≤ n ∧
      ¬ e.Exists w (nextFilenamePath dirname filename fileextension m) ∧
      ∀ k, num ≤ k → k < m → e.Exists w (nextFilenamePath dirname filename fileextension k) := by
  induction rounds generalizing num w with
  | zero => omega
  | succ rounds ih =>
    obtain ⟨r, hstat, hr⟩ :=
      storageCommonStat_exists h w (nextFilenamePath dirname filename fileextension num)
    rw [storageNextFilenameLoop]
    by_cases htaken : e.Exists w (nextFilenamePath dirname filename fileextension num)
    · have hne : num ≠ n := fun heq => hfree (heq ▸ htaken)
      have hnext : (num + 1) % 65536 = num + 1 := Nat.mod_eq_of_lt (by omega)
      have hpath : dirname ++ 0x2F :: (filename ++ decimalText (num + 1) ++ fileextension) =
          nextFilenamePath dirname filename fileextension (num + 1) := by
        rw [nextFilenamePath, if_neg (Nat.succ_ne_zero num)]
      obtain ⟨m, w', hrun, hcards, hmn, hm, hbefore⟩ :=
        ih (w := w.record .other) hfree (show num + 1 ≤ n by omega) (by omega)
      refine ⟨m, w', ?_, hcards, hmn, hm, fun k hk hkm => ?_⟩
      · refine hstat.bind ?_
        simp only [if_pos (hr.mpr htaken), hnext, hpath]
        exact hrun
      · rcases Nat.eq_or_lt_of_le hk with rfl | hlt
        · exact htaken
        · exact hbefore k hlt hkm
    · refine ⟨num, w.record .other, ?_, rfl, hle, htaken,
        fun k hk hkm => absurd hkm (Nat.not_lt.mpr hk)⟩
      refine hstat.bind ?_
      simp only [if_neg fun herror => htaken (hr.mp herror)]
      rfl

omit [DecidableEq κ] in
/-- With a card that does not fail, and a name that is free with some number or without one, the
function returns and changes no card. The name is the given one when that is free. It has the
smallest number that makes it free when the given name is shorter than `max_len`, and is the given
one otherwise. -/
theorem storageGetNextFilename_free (e : StorageCaller κ) (h : e.NoFailures)
    (w : StorageWorld e.key) (dirname filename fileextension : CPath) (maxLen : UInt8)
    (hfree : ∃ n < 65536, ¬ e.Exists w (nextFilenamePath dirname filename fileextension n))
    (rounds : Nat) (hrounds : 65536 ≤ rounds) :
    ∃ name w', (e.storageGetNextFilename rounds dirname filename fileextension maxLen).Returns
        w name w' ∧
      w'.cards = w.cards ∧
      (¬ e.Exists w (dirname ++ 0x2F :: (filename ++ fileextension)) → name = filename) ∧
      (maxLen.toNat ≤ filename.length → name = filename) ∧
      (filename.length < maxLen.toNat →
        ¬ e.Exists w' (dirname ++ 0x2F :: (name ++ fileextension)) ∧
        (name = filename ∨ ∃ num, 0 < num ∧ num < 65536 ∧ name = filename ++ decimalText num ∧
          ∀ k < num, e.Exists w (nextFilenamePath dirname filename fileextension k))) := by
  obtain ⟨n, hn, hfree⟩ := hfree
  obtain ⟨num, w', hrun, hcards, hle, hnum, hbefore⟩ := storageNextFilenameLoop_free h hn hfree
    (Nat.zero_le n) (by omega : n < 0 + rounds)
  have hzero : nextFilenamePath dirname filename fileextension 0 =
      dirname ++ 0x2F :: (filename ++ fileextension) := by
    rw [nextFilenamePath, if_pos rfl, List.append_nil]
  rw [hzero] at hrun
  refine ⟨_, w', hrun.bind (Program.returns_pure _ _), hcards, fun hplain => ?_,
    fun hlong => if_neg fun hnum => Nat.not_lt.mpr hlong hnum.2, fun hshort => ?_⟩
  · refine if_neg fun hnum => hplain ?_
    rw [← hzero]
    exact hbefore 0 (Nat.le_refl 0) (Nat.pos_of_ne_zero hnum.1)
  · rw [exists_congr hcards]
    by_cases hplain : num = 0
    · rw [if_neg fun hnum => hnum.1 hplain, ← hzero]
      exact ⟨hplain ▸ hnum, .inl rfl⟩
    · rw [if_pos ⟨hplain, hshort⟩]
      rw [nextFilenamePath, if_neg hplain] at hnum
      exact ⟨hnum, .inr ⟨num, Nat.pos_of_ne_zero hplain, by omega, rfl,
        fun k hk => hbefore k (Nat.zero_le k) hk⟩⟩

end StorageCaller

/-- A card with the file `/ext/a`. -/
def nextFilenameWorld : StorageWorld storagePathCaller.key where
  cards _ := FileTree.empty.create [] (.oem ⟨[0x61], by decide⟩) 0 (.file []) rfl rfl
  opened := []
  trace := []

/-- Beside `a` the next name is `a1`. -/
theorem storageGetNextFilename_second : ∃ name w',
    (storagePathCaller.storageGetNextFilename 65536 (cBytes ['/', 'e', 'x', 't']) [0x61] [] 2).Returns
      nextFilenameWorld name w' ∧
    ¬ storagePathCaller.Exists w' (cBytes ['/', 'e', 'x', 't'] ++ 0x2F :: (name ++ [])) := by
  obtain ⟨name, w', hrun, -, -, -, hfresh⟩ := storagePathCaller.storageGetNextFilename_free
    (fun _ => rfl) nextFilenameWorld (cBytes ['/', 'e', 'x', 't']) [0x61] [] 2
    ⟨1, by decide, by decide +kernel⟩ 65536 (Nat.le_refl _)
  exact ⟨name, w', hrun, (hfresh (by decide)).1⟩

/-- A name as long as the longest name allowed is returned although it is taken. -/
theorem storageGetNextFilename_taken : ∃ w',
    (storagePathCaller.storageGetNextFilename 2 (cBytes ['/', 'e', 'x', 't']) [0x61] [] 1).Returns
      nextFilenameWorld [0x61] w' ∧
    storagePathCaller.Exists w' (cBytes ['/', 'e', 'x', 't'] ++ 0x2F :: ([0x61] ++ [])) := by
  exact ⟨⟨nextFilenameWorld.cards, [], [.other, .other]⟩, rfl, by decide +kernel⟩

end FlipperZero
