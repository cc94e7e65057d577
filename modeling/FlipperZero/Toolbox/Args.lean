import FlipperZero.Foundation.System
import FlipperZero.Furi.FuriString
import FlipperZero.Stream.StringStream
import FlipperZero.Toolbox.Strint

/-!
# Arguments

The readers of `args.c` take a word off a string of arguments and trim the rest. A reader that
returns false has no result here. The reader of a quoted word asks for the position of the closing
quote, and takes the answer that there is none for a position.
-/

namespace FlipperZero

open Foundation

/-! ### Readers -/

def argsGetFirstWordLength (args : List UInt8) : Nat :=
  let ws := furiStringSearchChar args 32 0
  if ws = furiStringFailure then args.length else ws

/-- `args_read_int_and_trim`: the value and the rest. -/
def argsReadIntAndTrim (args : List UInt8) : Option (Int × List UInt8) :=
  let cmdLength := argsGetFirstWordLength args
  if cmdLength = 0 then none
  else
    match strintToInt32 (cString args) 10 with
    | .ok (temp, _) => some (temp, furiStringTrim (furiStringRight args cmdLength))
    | .error _      => none

/-- `args_read_string_and_trim`: the word and the rest. -/
def argsReadStringAndTrim (args : List UInt8) : Option (List UInt8 × List UInt8) :=
  let cmdLength := argsGetFirstWordLength args
  if cmdLength = 0 then none
  else some (furiStringSetN args 0 cmdLength, furiStringTrim (furiStringRight args cmdLength))

/-- `args_read_probably_quoted_string_and_trim`: the word and the rest. -/
def argsReadProbablyQuotedStringAndTrim (args : List UInt8) :
    Option (List UInt8 × List UInt8) :=
  if 1 < args.length ∧ args.head? = some 34 then
    let secondQuotePos := furiStringSearchChar args 34 1
    if secondQuotePos = 0 then none
    else
      some (furiStringSetN args 1 (secondQuotePos - 1),
        furiStringTrim (furiStringRight args ((secondQuotePos + 1) % 4294967296)))
  else argsReadStringAndTrim args

/-! ### Progress -/

/-- What a reader may leave: the end of the arguments, trimmed and shorter than they were. -/
structure IsRest (args rest : List UInt8) : Prop where
  shorter : rest.length < args.length
  suffix : ∃ t, t <:+ args ∧ rest = furiStringTrim t

/-- The arguments open with a quote that is not closed. -/
def UnterminatedQuote (args : List UInt8) : Prop := args.head? = some 34 ∧ 34 ∉ args.tail

instance (args : List UInt8) : Decidable (UnterminatedQuote args) :=
  inferInstanceAs (Decidable (_ ∧ _))

/-- Whatever a reader takes, it makes progress, and an open quote is not taken for a word. -/
structure ArgsProgress (args : List UInt8) : Prop where
  int : ∀ value rest, argsReadIntAndTrim args = some (value, rest) → IsRest args rest
  string : ∀ word rest, argsReadStringAndTrim args = some (word, rest) → IsRest args rest
  quoted : ∀ word rest, argsReadProbablyQuotedStringAndTrim args = some (word, rest) →
    IsRest args rest ∧ ¬UnterminatedQuote args

/-- The readers of a loop over arguments. -/
inductive ArgsReader where
  | int
  | string
  | quoted
  deriving DecidableEq, Repr

/-- A loop that reads on while the readers return true. -/
def argsReads : System (List UInt8) ArgsReader where
  step args
    | .int    => (argsReadIntAndTrim args).map Prod.snd
    | .string => (argsReadStringAndTrim args).map Prod.snd
    | .quoted => (argsReadProbablyQuotedStringAndTrim args).map Prod.snd

variable {args rest : List UInt8}

lemma isRest_right {n : Nat} (hn : n ≠ 0) (hargs : args ≠ []) :
    IsRest args (furiStringTrim (furiStringRight args n)) := by
  refine ⟨?_, args.drop n, List.drop_suffix n args, rfl⟩
  have hpos := List.length_pos_iff.mpr hargs
  have htrim := length_furiStringTrim_le (args.drop n)
  rw [List.length_drop] at htrim
  rw [furiStringRight]
  omega

lemma argsGetFirstWordLength_nil : argsGetFirstWordLength [] = 0 := rfl

lemma ne_nil_of_firstWord (h : argsGetFirstWordLength args ≠ 0) : args ≠ [] := by
  rintro rfl
  exact h argsGetFirstWordLength_nil

lemma isRest_string {word : List UInt8} (h : argsReadStringAndTrim args = some (word, rest)) :
    IsRest args rest := by
  simp only [argsReadStringAndTrim] at h
  split_ifs at h with hlength
  obtain ⟨-, rfl⟩ := Prod.mk.inj (Option.some.inj h)
  exact isRest_right hlength (ne_nil_of_firstWord hlength)

lemma isRest_int {value : Int} (h : argsReadIntAndTrim args = some (value, rest)) :
    IsRest args rest := by
  simp only [argsReadIntAndTrim] at h
  split_ifs at h with hlength
  split at h
  · obtain ⟨-, rfl⟩ := Prod.mk.inj (Option.some.inj h)
    exact isRest_right hlength (ne_nil_of_firstWord hlength)
  · cases h

lemma isRest_quoted {word : List UInt8} (hlen : args.length < 4294967295)
    (hquote : ¬UnterminatedQuote args)
    (h : argsReadProbablyQuotedStringAndTrim args = some (word, rest)) : IsRest args rest := by
  rw [argsReadProbablyQuotedStringAndTrim] at h
  split_ifs at h with hquoted
  · have hclosed : 34 ∈ args.drop 1 := by
      by_contra hopen
      exact hquote ⟨hquoted.2, by rwa [← List.drop_one]⟩
    obtain ⟨hlow, hhigh⟩ := furiStringSearchChar_of_mem hclosed
    simp only at h
    split_ifs at h
    obtain ⟨-, rfl⟩ := Prod.mk.inj (Option.some.inj h)
    have hmod : (furiStringSearchChar args 34 1 + 1) % 4294967296 =
        furiStringSearchChar args 34 1 + 1 := Nat.mod_eq_of_lt (by omega)
    rw [hmod]
    exact isRest_right (Nat.succ_ne_zero _) (List.ne_nil_of_length_pos (by omega))
  · exact isRest_string h

/-- An open quote is taken for a word, and when more stands behind it nothing is taken off. -/
lemma quoted_of_unterminated (h : UnterminatedQuote args) :
    ∃ word rest, argsReadProbablyQuotedStringAndTrim args = some (word, rest) := by
  obtain ⟨hhead, hopen⟩ := h
  rw [argsReadProbablyQuotedStringAndTrim]
  split_ifs with hquoted
  · have hfailure : furiStringSearchChar args 34 1 = furiStringFailure :=
      furiStringSearchChar_of_notMem (by rwa [List.drop_one])
    simp only [hfailure]
    exact ⟨_, _, rfl⟩
  · -- the quote stands alone
    obtain ⟨t, rfl⟩ : ∃ t, args = 34 :: t := List.head?_eq_some_iff.mp hhead
    obtain rfl : t = [] := by
      by_contra hne
      have hpos := List.length_pos_iff.mpr hne
      exact hquoted ⟨by simpa using hpos, rfl⟩
    exact ⟨[34], [], rfl⟩

lemma argsProgress_iff_quote (hlen : args.length < 4294967295) :
    ArgsProgress args ↔ ¬UnterminatedQuote args := by
  constructor
  · intro h hquote
    obtain ⟨word, rest, hread⟩ := quoted_of_unterminated hquote
    exact (h.quoted word rest hread).2 hquote
  · intro hquote
    exact ⟨fun _ _ => isRest_int, fun _ _ => isRest_string,
      fun _ _ h => ⟨isRest_quoted hlen hquote h, hquote⟩⟩

/-! ### Loops -/

lemma isRest_step (hlen : args.length < 4294967295) (hquote : ¬UnterminatedQuote args)
    {reader : ArgsReader} (h : argsReads.step args reader = some rest) : IsRest args rest := by
  cases reader with
  | int =>
    obtain ⟨⟨value, rest⟩, hread, rfl⟩ := Option.map_eq_some_iff.mp h
    exact isRest_int hread
  | string =>
    obtain ⟨⟨word, rest⟩, hread, rfl⟩ := Option.map_eq_some_iff.mp h
    exact isRest_string hread
  | quoted =>
    obtain ⟨⟨word, rest⟩, hread, rfl⟩ := Option.map_eq_some_iff.mp h
    exact isRest_quoted hlen hquote hread

lemma length_replay (hlen : args.length < 4294967295) {readers : List ArgsReader}
    (h : argsReads.replay (fun args _ => ¬UnterminatedQuote args) args readers = some rest) :
    readers.length + rest.length ≤ args.length := by
  induction readers generalizing args with
  | nil =>
    obtain rfl : args = rest := Option.some.inj h
    simp
  | cons reader readers ih =>
    rw [System.replay] at h
    split_ifs at h with hquote
    obtain ⟨args', hstep, hrest⟩ := Option.bind_eq_some_iff.mp h
    have hshorter := (isRest_step hlen hquote hstep).shorter
    have hrounds := ih (Nat.lt_trans hshorter hlen) hrest
    rw [List.length_cons]
    omega

/-- The readers make progress if and only if the arguments do not open with a quote that is not
closed, and a loop that never meets one ends. -/
theorem argsProgress_iff (args : List UInt8) (hlen : args.length < 4294967295) :
    (ArgsProgress args ↔ ¬UnterminatedQuote args) ∧
      ∀ readers rest,
        argsReads.replay (fun args _ => ¬UnterminatedQuote args) args readers = some rest →
          readers.length + rest.length ≤ args.length :=
  ⟨argsProgress_iff_quote hlen, fun _ _ => length_replay hlen⟩

/-- A quoted word and a number. -/
theorem argsProgress_iff_closed :
    let args : List UInt8 := [34, 97, 32, 98, 34, 32, 52, 50]
    (ArgsProgress args ↔ ¬UnterminatedQuote args) ∧
      ∀ readers rest,
        argsReads.replay (fun args _ => ¬UnterminatedQuote args) args readers = some rest →
          readers.length + rest.length ≤ args.length :=
  argsProgress_iff [34, 97, 32, 98, 34, 32, 52, 50] (by decide)

/-- An open quote is read as a word and stays where it is, however often. -/
theorem not_argsProgress_open :
    let args : List UInt8 := [34, 97]
    argsReadProbablyQuotedStringAndTrim args = some ([97], args) ∧ ¬ArgsProgress args := by
  intro args
  have hread : argsReadProbablyQuotedStringAndTrim args = some ([97], args) := by decide
  refine ⟨hread, fun h => ?_⟩
  exact absurd (h.quoted _ _ hread).1.shorter (Nat.lt_irrefl _)

end FlipperZero
