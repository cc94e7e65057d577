import Mathlib.Data.List.DropRight
import FlipperZero.Storage.Processing

/-!
# Names and paths on a card

How FATFS takes a path apart (`create_name` and `follow_path`): separators may be doubled, a
control character ends the path, spaces and dots at the end of a name do not count, and an
empty name is not valid. The names in paths are bytes of the OEM code page. A directory can hold
other names as well, which are shown as a question mark and which no path has.
-/

namespace FlipperZero

/-- The separators of a path: `/` and `\`. -/
def fatIsSeparator (c : UInt8) : Bool := c == 0x2F || c == 0x5C

/-- The characters that may stand in a long name. -/
def fatIsLegal (c : UInt8) : Bool :=
  0x20 ≤ c && !fatIsSeparator c && !([0x22, 0x2A, 0x3A, 0x3C, 0x3E, 0x3F, 0x7C, 0x7F].contains c)

/-- The characters that are snipped off the end of a name. -/
def fatIsSnipped (c : UInt8) : Bool := c == 0x20 || c == 0x2E

/-- What a directory can hold as a name, with `_MAX_LFN` characters at most. -/
def isCardName (name : List UInt8) : Bool :=
  name != [] && name.length ≤ 255 && name.all fatIsLegal && name.rdropWhile fatIsSnipped == name

/-- A name in a directory: bytes of the OEM code page, or Unicode characters that the code page does
not have. On a card with exFAT there are entries that have no other name. -/
inductive CardName where
  | oem (name : { name : List UInt8 // isCardName name = true })
  | unicode (name : List UInt16)
  deriving DecidableEq

namespace CardName

/-- The name as it is read: `get_xdir_info` gives a question mark when it cannot convert it. -/
def val : CardName → List UInt8
  | oem name  => name.val
  | unicode _ => [0x3F]

/-- How many characters the name has on the card. -/
def length : CardName → Nat
  | oem name     => name.val.length
  | unicode name => name.length

/-- The name can be written with the code page. -/
def isOem : CardName → Bool
  | oem _     => true
  | unicode _ => false

end CardName

/-- `create_name`, on one segment of a path. -/
def fatCreateName (segment : List UInt8) : Option CardName :=
  if 255 < segment.length then none
  else if h : isCardName (segment.rdropWhile fatIsSnipped) then some (.oem ⟨_, h⟩)
  else none

/-- The segments of a path. `skip` says that a separator was read last, so that another one is
skipped. -/
def fatSegments (segment : List UInt8) (skip : Bool) : List UInt8 → List (List UInt8)
  | []        => [segment.reverse]
  | c :: path =>
    if fatIsSeparator c then
      if skip then fatSegments [] true path else segment.reverse :: fatSegments [] true path
    else fatSegments (c :: segment) false path

/-- The names of a path up to the first segment that is not a name, and whether that is all of
the path. -/
def fatNames : List (List UInt8) → List CardName × Bool
  | []      => ([], true)
  | s :: ss =>
    match fatCreateName s with
    | none      => ([], false)
    | some name => (name :: (fatNames ss).1, (fatNames ss).2)

/-- The path `follow_path` goes. -/
def fatFollowPath (path : List UInt8) : List CardName × Bool :=
  let path := path.takeWhile (0x20 ≤ ·)
  if path.all fatIsSeparator then ([], true) else fatNames (fatSegments [] true path)

/-! ### The path of an entry -/

variable {path q segment : List UInt8} {skip : Bool} {name : CardName}

lemma fatIsSeparator_slash : fatIsSeparator 0x2F = true := rfl

lemma fatIsLegal.not_separator {c : UInt8} (h : fatIsLegal c = true) : fatIsSeparator c = false := by
  unfold fatIsLegal at h
  simp only [Bool.and_eq_true, Bool.not_eq_true'] at h
  exact h.1.2

lemma fatIsLegal.printable {c : UInt8} (h : fatIsLegal c = true) : 0x20 ≤ c := by
  unfold fatIsLegal at h
  simp only [Bool.and_eq_true, decide_eq_true_eq] at h
  exact h.1.1

lemma isCardName_iff {text : List UInt8} : isCardName text = true ↔
    ((text ≠ [] ∧ text.length ≤ 255) ∧ ∀ c ∈ text, fatIsLegal c = true) ∧
      text.rdropWhile fatIsSnipped = text := by
  simp only [isCardName, Bool.and_eq_true, bne_iff_ne, decide_eq_true_eq, List.all_eq_true,
    beq_iff_eq]

namespace CardName

lemma ne_nil (name : CardName) : name.val ≠ [] := by
  cases name with
  | oem name => exact (isCardName_iff.mp name.property).1.1.1
  | unicode name => exact List.cons_ne_nil _ _

lemma readable (name : CardName) {c : UInt8} (hc : c ∈ name.val) :
    fatIsSeparator c = false ∧ 0x20 ≤ c := by
  cases name with
  | oem name =>
    have hlegal := (isCardName_iff.mp name.property).1.2 c hc
    exact ⟨fatIsLegal.not_separator hlegal, fatIsLegal.printable hlegal⟩
  | unicode name =>
    obtain rfl := List.mem_singleton.mp hc
    decide

lemma val_length_of_isOem {name : CardName} (h : name.isOem = true) :
    name.val.length = name.length := by
  cases name with
  | oem name => rfl
  | unicode name => cases h

lemma eq_of_val {a b : CardName} (ha : a.isOem = true) (hb : b.isOem = true)
    (h : a.val = b.val) : a = b := by
  cases a with
  | oem a =>
    cases b with
    | oem b => exact congrArg oem (Subtype.ext h)
    | unicode b => cases hb
  | unicode a => cases ha

end CardName

/-- A name of the code page is a segment that stays as it is. -/
lemma fatCreateName_cardName {name : CardName} (h : name.isOem = true) :
    fatCreateName name.val = some name := by
  cases name with
  | oem name =>
    obtain ⟨⟨⟨-, hle⟩, -⟩, hsnipped⟩ := isCardName_iff.mp name.property
    have hname : isCardName (name.val.rdropWhile fatIsSnipped) = true := by
      rw [hsnipped]
      exact name.property
    rw [CardName.val, fatCreateName, if_neg (Nat.not_lt.mpr hle), dif_pos hname]
    exact congrArg (fun name => some (CardName.oem name)) (Subtype.ext hsnipped)
  | unicode name => cases h

lemma fatCreateName_unicode (name : List UInt16) :
    fatCreateName (CardName.unicode name).val = none := by
  rw [CardName.val]
  decide

lemma fatSegments_of_noSeparator (h : ∀ c ∈ q, fatIsSeparator c = false) :
    fatSegments segment skip q = [segment.reverse ++ q] := by
  induction q generalizing segment skip with
  | nil => simp [fatSegments]
  | cons c q ih =>
    have hc := h c List.mem_cons_self
    rw [fatSegments, hc, if_neg (by simp), ih fun d hd => h d (List.mem_cons_of_mem _ hd)]
    simp

lemma fatSegments_append (hskip : skip = true → segment = [])
    (hlast : (fatSegments segment skip path).getLast? ≠ some []) :
    fatSegments segment skip (path ++ 0x2F :: q) =
      fatSegments segment skip path ++ fatSegments [] true q := by
  induction path generalizing segment skip with
  | nil =>
    cases skip with
    | false => rfl
    | true =>
      rw [hskip rfl] at hlast
      exact absurd rfl hlast
  | cons c path ih =>
    rw [List.cons_append, fatSegments, fatSegments]
    rw [fatSegments] at hlast
    split_ifs at hlast ⊢ with hc hs
    · exact ih (fun _ => rfl) hlast
    · rw [List.cons_append, ih (fun _ => rfl)]
      intro hnil
      refine hlast ?_
      rw [List.getLast?_cons, hnil]
      rfl
    · exact ih (fun h => absurd h (by simp)) hlast

lemma fatSegments_separators (h : path.all fatIsSeparator = true) :
    fatSegments [] true (path ++ q) = fatSegments [] true q := by
  induction path with
  | nil => rfl
  | cons c path ih =>
    rw [List.all_cons, Bool.and_eq_true] at h
    rw [List.cons_append, fatSegments, if_pos h.1, if_pos rfl, ih h.2]

lemma fatNames_append {ss ss' : List (List UInt8)} {names : List CardName}
    (h : fatNames ss = (names, true)) :
    fatNames (ss ++ ss') = (names ++ (fatNames ss').1, (fatNames ss').2) := by
  induction ss generalizing names with
  | nil =>
    cases h
    rfl
  | cons s ss ih =>
    rw [fatNames] at h
    rw [List.cons_append, fatNames]
    cases hs : fatCreateName s with
    | none =>
      rw [hs] at h
      cases h
    | some name =>
      rw [hs] at h
      obtain ⟨hnames, htrue⟩ := Prod.mk.inj h
      rw [← hnames]
      simp only [ih (Prod.ext rfl htrue), List.cons_append]

/-- The last segment of a path that is all names is not empty. -/
lemma getLast?_of_fatNames {ss : List (List UInt8)} {names : List CardName}
    (h : fatNames ss = (names, true)) : ss.getLast? ≠ some [] := by
  intro hlast
  obtain ⟨init, rfl⟩ := List.getLast?_eq_some_iff.mp hlast
  clear hlast
  induction init generalizing names with
  | nil => cases h
  | cons s init ih =>
    rw [List.cons_append, fatNames] at h
    cases hs : fatCreateName s with
    | none =>
      rw [hs] at h
      cases h
    | some name =>
      rw [hs] at h
      exact ih (Prod.ext rfl (Prod.mk.inj h).2)

/-- A path has no control characters. -/
def IsPrintable (path : List UInt8) : Prop := ∀ c ∈ path, 0x20 ≤ c

instance : Decidable (IsPrintable path) := inferInstanceAs (Decidable (∀ c ∈ path, 0x20 ≤ c))

lemma IsPrintable.takeWhile (h : IsPrintable path) :
    path.takeWhile (fun c => decide (0x20 ≤ c)) = path :=
  List.takeWhile_eq_self_iff.mpr fun c hc => decide_eq_true (h c hc)

lemma IsPrintable.child (h : IsPrintable path) (name : CardName) :
    IsPrintable (path ++ 0x2F :: name.val) := by
  intro c hc
  rcases List.mem_append.mp hc with hc | hc
  · exact h c hc
  · rcases List.mem_cons.mp hc with rfl | hc
    · decide
    · exact (name.readable hc).2

lemma fatFollowPath_child {names : List CardName} (h : fatFollowPath path = (names, true))
    (hpath : IsPrintable path) (hname : name.isOem = true) :
    fatFollowPath (path ++ 0x2F :: name.val) = (names ++ [name], true) := by
  have hprint := hpath.child name
  have hsep : ∀ c ∈ name.val, fatIsSeparator c = false := fun c hc => (name.readable hc).1
  have hnot : (path ++ 0x2F :: name.val).all fatIsSeparator = false := by
    obtain ⟨c, hc⟩ := List.exists_mem_of_ne_nil _ name.ne_nil
    refine List.all_eq_false.mpr ⟨c, ?_, by rw [hsep c hc]; simp⟩
    exact List.mem_append_right _ (List.mem_cons_of_mem _ hc)
  have hsegment : fatNames (fatSegments [] true name.val) = ([name], true) := by
    rw [fatSegments_of_noSeparator hsep, List.reverse_nil, List.nil_append, fatNames,
      fatCreateName_cardName hname]
    rfl
  unfold fatFollowPath at h ⊢
  simp only [hpath.takeWhile, hprint.takeWhile, hnot] at h ⊢
  rw [if_neg (by simp)]
  split_ifs at h with hall
  · cases h
    rw [fatSegments_separators hall, fatSegments, if_pos fatIsSeparator_slash, if_pos rfl, hsegment]
    rfl
  · rw [fatSegments_append (fun _ => rfl) (getLast?_of_fatNames h), fatNames_append h, hsegment]

/-! ### The last name of a path -/

lemma fatSegments_ne_nil : fatSegments segment skip path ≠ [] := by
  induction path generalizing segment skip with
  | nil => exact List.cons_ne_nil _ _
  | cons c path ih =>
    rw [fatSegments]
    split_ifs
    · exact ih
    · exact List.cons_ne_nil _ _
    · exact ih

lemma getLast?_fatSegments (h : ∀ c ∈ q, fatIsSeparator c = false) :
    (fatSegments segment skip (path ++ 0x2F :: q)).getLast? = some q := by
  have hcons (s : List UInt8) (ss : List (List UInt8)) (hss : ss ≠ []) :
      (s :: ss).getLast? = ss.getLast? := by
    cases ss with
    | nil => exact absurd rfl hss
    | cons s' ss => rfl
  induction path generalizing segment skip with
  | nil =>
    have hone : fatSegments [] true q = [q] := by
      rw [fatSegments_of_noSeparator h, List.reverse_nil, List.nil_append]
    rw [List.nil_append, fatSegments, if_pos fatIsSeparator_slash, hone]
    split_ifs <;> rfl
  | cons c path ih =>
    rw [List.cons_append, fatSegments]
    split_ifs
    · exact ih
    · rw [hcons _ _ fatSegments_ne_nil]
      exact ih
    · exact ih

lemma getLast?_fatNames {ss : List (List UInt8)} {names : List CardName}
    (h : fatNames ss = (names, true)) (hlast : ss.getLast? = some segment) :
    ∃ name, names.getLast? = some name ∧ fatCreateName segment = some name := by
  induction ss generalizing names with
  | nil => cases hlast
  | cons s ss ih =>
    rw [fatNames] at h
    cases hs : fatCreateName s with
    | none =>
      rw [hs] at h
      cases h
    | some name =>
      rw [hs] at h
      obtain ⟨hnames, htrue⟩ := Prod.mk.inj h
      cases ss with
      | nil =>
        cases hlast
        refine ⟨name, ?_, hs⟩
        rw [← hnames]
        rfl
      | cons s' ss =>
        obtain ⟨name', hname', hcreate⟩ := ih (Prod.ext rfl htrue) hlast
        refine ⟨name', ?_, hcreate⟩
        rw [← hnames, List.getLast?_cons, hname']
        rfl

lemma fatFollowPath_last {names : List CardName} (hpath : IsPrintable path) (hq : IsPrintable q)
    (hnil : q ≠ []) (hsep : ∀ c ∈ q, fatIsSeparator c = false)
    (h : fatFollowPath (path ++ 0x2F :: q) = (names, true)) :
    ∃ name, names.getLast? = some name ∧ fatCreateName q = some name := by
  have hprint : IsPrintable (path ++ 0x2F :: q) := by
    intro c hc
    rcases List.mem_append.mp hc with hc | hc
    · exact hpath c hc
    · rcases List.mem_cons.mp hc with rfl | hc
      · decide
      · exact hq c hc
  have hnot : (path ++ 0x2F :: q).all fatIsSeparator = false := by
    obtain ⟨c, hc⟩ := List.exists_mem_of_ne_nil _ hnil
    refine List.all_eq_false.mpr ⟨c, ?_, by rw [hsep c hc]; simp⟩
    exact List.mem_append_right _ (List.mem_cons_of_mem _ hc)
  unfold fatFollowPath at h
  simp only [hprint.takeWhile, hnot] at h
  rw [if_neg (by simp)] at h
  exact getLast?_fatNames h (getLast?_fatSegments hsep)

lemma fatCreateName_length (h : fatCreateName segment = some name) :
    name.length ≤ segment.length := by
  unfold fatCreateName at h
  split_ifs at h
  cases h
  exact (List.rdropWhile_prefix _ _).length_le

lemma fatFollowPath_unicode (hpath : IsPrintable path) (hname : name.isOem = false) :
    (fatFollowPath (path ++ 0x2F :: name.val)).2 = false := by
  cases name with
  | oem name => cases hname
  | unicode name =>
    refine Bool.eq_false_iff.mpr fun hall => ?_
    obtain ⟨name', -, hcreate⟩ := fatFollowPath_last hpath
      (fun c hc => (CardName.readable (.unicode name) hc).2) (CardName.ne_nil (.unicode name))
      (fun c hc => (CardName.readable (.unicode name) hc).1) (Prod.ext rfl hall)
    rw [fatCreateName_unicode] at hcreate
    cases hcreate

end FlipperZero
