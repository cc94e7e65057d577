import FlipperZero.Toolbox.Strint
import Mathlib.Data.List.GetD
import Mathlib.Data.List.TakeWhile
import Mathlib.Logic.Function.Basic

/-!
# Reading a keystore

`subghz_keystore_read_file` takes a file byte by byte and gives each line to
`subghz_keystore_process_line`, in an encrypted file after decryption. Nothing writes the end of a
line: it is a zero that the buffer had before. The state after some bytes is a function of the bytes
of the line that has not ended, `SubGhzKeystoreReader.holding`.
-/

namespace FlipperZero

/-! ### The code -/

/-- A line that `subghz_keystore_process_line` gets: the size of its buffer and the bytes. -/
structure KeystoreLine where
  size : Nat
  bytes : Nat → UInt8

/-- The line ends inside its buffer. -/
def KeystoreLine.Terminated (line : KeystoreLine) : Prop := ∃ i < line.size, line.bytes i = 0

/-- `strlen` of what a buffer holds, `none` when it looks for the end behind the buffer. -/
def strlenIn (size : Nat) (bytes : Nat → UInt8) : Option Nat :=
  (List.range size).find? fun i => bytes i == 0

/-- The digits of a text to bytes, in place. -/
def hexToBin (len : Nat) (bytes : Nat → UInt8) : Nat → UInt8 :=
  (List.range' 0 (len / 2) 2).foldl (fun bytes i =>
    let hiNibble := (hexCharToHexNibble (bytes i)).getD 0
    let loNibble := (hexCharToHexNibble (bytes (i + 1))).getD 0
    Function.update bytes (i / 2) (UInt8.ofNat (hiNibble * 16 + loNibble))) bytes

/-- Why reading ends before the end of the file. -/
inductive KeystoreStop where
  | malformed
  | decryption
  | outside
  deriving DecidableEq

/-- The variables of `subghz_keystore_read_file`, with the state of the decryption and the lines
that have been processed. -/
structure SubGhzKeystoreReader (σ : Type) where
  decryptedLine : Nat → UInt8
  encryptedLine : Nat → UInt8
  encryptedLineCursor : Nat
  crypto : Option σ
  lines : List KeystoreLine

/-- The lines that are processed, and why no more are. -/
structure KeystoreResult where
  lines : List KeystoreLine
  stop : Option KeystoreStop

variable {σ : Type}

namespace SubGhzKeystoreReader

/-- `subghz_keystore_process_line`, as far as it gets the line. -/
def processLine (s : SubGhzKeystoreReader σ) (line : KeystoreLine) : SubGhzKeystoreReader σ :=
  { s with lines := s.lines ++ [line] }

/-- The buffers are set to zero. -/
def wipe (s : SubGhzKeystoreReader σ) : SubGhzKeystoreReader σ :=
  { s with decryptedLine := fun _ => 0, encryptedLine := fun _ => 0, encryptedLineCursor := 0 }

variable (decrypt : σ → (input : List UInt8) → Option (σ × Vector UInt8 input.length))

/-- The end of a line. `furi_hal_crypto_decrypt` fails or writes as many bytes as it is given. -/
def endLine (s : SubGhzKeystoreReader σ) :
    Except (List KeystoreLine × KeystoreStop) (SubGhzKeystoreReader σ) :=
  match s.crypto with
  | none        => .ok (s.processLine ⟨1024, s.encryptedLine⟩).wipe
  | some crypto =>
    match strlenIn 1024 s.encryptedLine with
    | none     => .error (s.lines, .outside)
    | some len =>
      if len % 32 = 0 then
        let encryptedLine := hexToBin len s.encryptedLine
        match decrypt crypto ((List.range (len / 2)).map encryptedLine) with
        | some (crypto, output) =>
          let decryptedLine i := output.toArray.getD i (s.decryptedLine i)
          .ok ({ s with crypto := some crypto }.processLine ⟨512, decryptedLine⟩).wipe
        | none => .error (s.lines, .decryption)
      else .ok s.wipe

/-- The body of the loop over the bytes of the buffer. -/
def readByte (s : SubGhzKeystoreReader σ) (b : UInt8) :
    Except (List KeystoreLine × KeystoreStop) (SubGhzKeystoreReader σ) :=
  if b = 10 ∧ 0 < s.encryptedLineCursor then s.endLine decrypt
  else if b = 13 ∨ b = 10 then .ok s
  else if s.encryptedLineCursor < 1024 then
    .ok { s with
      encryptedLine := Function.update s.encryptedLine s.encryptedLineCursor b
      encryptedLineCursor := s.encryptedLineCursor + 1 }
  else .error (s.lines, .malformed)

/-- The loop over the reads of 64 bytes. -/
def readChunks (s : SubGhzKeystoreReader σ) (content : List UInt8) :
    Except (List KeystoreLine × KeystoreStop) (SubGhzKeystoreReader σ) :=
  if content = [] then .ok s
  else
    (content.take 64).foldlM (readByte decrypt) s >>= fun s => readChunks s (content.drop 64)
termination_by content.length
decreasing_by
  have hpos := List.length_pos_iff.mpr ‹content ≠ []›
  rw [List.length_drop]
  omega

end SubGhzKeystoreReader

/-- What a run has processed. -/
def keystoreResult :
    Except (List KeystoreLine × KeystoreStop) (SubGhzKeystoreReader σ) → KeystoreResult
  | .ok s                 => ⟨s.lines, none⟩
  | .error (lines, stop) => ⟨lines, some stop⟩

/-- The variables at the start: `malloc` gives memory of zeros. -/
def SubGhzKeystoreReader.start (crypto : Option σ) : SubGhzKeystoreReader σ :=
  ⟨fun _ => 0, fun _ => 0, 0, crypto, []⟩

/-- `subghz_keystore_read_file`: `iv` is `none` for a file without encryption, and `some none` when
the key cannot be loaded. -/
def subghzKeystoreReadFile
    (decrypt : σ → (input : List UInt8) → Option (σ × Vector UInt8 input.length))
    (iv : Option (Option σ)) (content : List UInt8) : KeystoreResult :=
  match iv with
  | some none          => ⟨[], none⟩
  | none               => keystoreResult ((SubGhzKeystoreReader.start none).readChunks decrypt content)
  | some (some crypto) =>
    keystoreResult ((SubGhzKeystoreReader.start (some crypto)).readChunks decrypt content)

/-! ### Lines -/

/-- The lines of a text that end, without their line ends and without the empty ones; the first one
goes on with what has been read of it. -/
def keystoreLines : List UInt8 → List UInt8 → List (List UInt8)
  | _,    []        => []
  | line, b :: rest =>
    if b = 10 then
      if line = [] then keystoreLines [] rest else line :: keystoreLines [] rest
    else if b = 13 then keystoreLines line rest
    else keystoreLines (line ++ [b]) rest

/-- The length of a line up to its first zero. -/
def keystoreLength (line : List UInt8) : Nat := (line.takeWhile (· ≠ 0)).length

variable (decrypt : σ → (input : List UInt8) → Option (σ × Vector UInt8 input.length))

/-- The state of the decryption behind a line, unless it fails. -/
def keystoreNext (crypto : Option σ) (line : List UInt8) : Option (Option σ) :=
  match crypto with
  | none        => some none
  | some crypto =>
    let len := keystoreLength line
    if len % 32 = 0 then
      (decrypt crypto ((List.range (len / 2)).map (hexToBin len fun i => line.getD i 0))).map
        fun output => some output.1
    else some (some crypto)

/-- No line fills the buffer with bytes other than zero, up to a line that is too long or that
cannot be decrypted. -/
def KeystoreFits : Option σ → List (List UInt8) → Prop
  | _,      []           => True
  | crypto, line :: rest =>
    line.length ≤ 1024 →
      ¬(line.length = 1024 ∧ 0 ∉ line) ∧
        ∀ crypto', keystoreNext decrypt crypto line = some crypto' → KeystoreFits crypto' rest

/-- Every line that is processed ends inside its buffer, and the end of none is looked for
behind it. -/
def KeystoreResult.Safe (result : KeystoreResult) : Prop :=
  result.stop ≠ some .outside ∧ ∀ line ∈ result.lines, line.Terminated

/-! ### Buffers -/

section Buffers

variable {line : List UInt8}

lemma keystoreLength_le (line : List UInt8) : keystoreLength line ≤ line.length :=
  (List.takeWhile_prefix _).length_le

lemma keystoreLength_cons (b : UInt8) (rest : List UInt8) :
    keystoreLength (b :: rest) = if b = 0 then 0 else keystoreLength rest + 1 := by
  rw [keystoreLength, List.takeWhile_cons]
  by_cases hb : b = 0
  · simp [hb]
  · simp [hb, keystoreLength]

lemma getD_ne_zero {i : Nat} (hi : i < keystoreLength line) : line.getD i 0 ≠ 0 := by
  induction line generalizing i with
  | nil => exact absurd hi (Nat.not_lt_zero i)
  | cons b rest ih =>
    rw [keystoreLength_cons] at hi
    split_ifs at hi with hb
    · exact absurd hi (Nat.not_lt_zero i)
    · cases i with
      | zero => exact hb
      | succ i => exact ih (Nat.lt_of_succ_lt_succ hi)

lemma getD_keystoreLength (line : List UInt8) : line.getD (keystoreLength line) 0 = 0 := by
  induction line with
  | nil => rfl
  | cons b rest ih =>
    rw [keystoreLength_cons]
    split_ifs with hb
    · exact hb
    · exact ih

lemma strlenIn_line (size : Nat) (line : List UInt8) :
    strlenIn size (fun i => line.getD i 0) =
      if keystoreLength line < size then some (keystoreLength line) else none := by
  split_ifs with hlt
  · refine List.find?_range_eq_some.mpr ⟨?_, List.mem_range.mpr hlt, fun j hj => ?_⟩
    · exact beq_iff_eq.mpr (getD_keystoreLength line)
    · simpa using getD_ne_zero hj
  · refine List.find?_range_eq_none.mpr fun i hi => ?_
    simpa using getD_ne_zero (Nat.lt_of_lt_of_le hi (Nat.not_lt.mp hlt))

lemma keystoreLength_lt_iff (h : line.length ≤ 1024) :
    keystoreLength line < 1024 ↔ ¬(line.length = 1024 ∧ 0 ∉ line) := by
  have hle := keystoreLength_le line
  constructor
  · rintro hlt ⟨hlength, hzero⟩
    have hall : line.takeWhile (· ≠ 0) = line :=
      List.takeWhile_eq_self_iff.mpr fun b hb => decide_eq_true fun heq => hzero (heq ▸ hb)
    rw [keystoreLength, hall] at hlt
    exact absurd hlength (Nat.ne_of_lt hlt)
  · intro hnot
    by_contra hge
    have hlength : keystoreLength line = line.length := by omega
    refine hnot ⟨by omega, fun hmem => ?_⟩
    obtain ⟨i, hi, hzero⟩ := List.mem_iff_getElem.mp hmem
    refine getD_ne_zero (hlength ▸ hi) ?_
    rw [List.getD_eq_getElem _ _ hi, hzero]

lemma terminated_line_iff (line : List UInt8) :
    KeystoreLine.Terminated ⟨1024, fun i => line.getD i 0⟩ ↔ keystoreLength line < 1024 := by
  constructor
  · rintro ⟨i, hi, hzero⟩
    by_contra hlt
    exact getD_ne_zero (Nat.lt_of_lt_of_le hi (Nat.not_lt.mp hlt)) hzero
  · exact fun hlt => ⟨_, hlt, getD_keystoreLength line⟩

end Buffers

/-! ### Runs -/

namespace SubGhzKeystoreReader

/-- The reader when some bytes of a line have come. -/
def holding (crypto : Option σ) (lines : List KeystoreLine) (line : List UInt8) :
    SubGhzKeystoreReader σ where
  decryptedLine := fun _ => 0
  encryptedLine := fun i => line.getD i 0
  encryptedLineCursor := line.length
  crypto := crypto
  lines := lines

variable {decrypt} {crypto : Option σ} {lines : List KeystoreLine} {line : List UInt8}

lemma readByte_put {b : UInt8} (hnewline : b ≠ 10) (hreturn : b ≠ 13) (h : line.length < 1024) :
    readByte decrypt (holding crypto lines line) b = .ok (holding crypto lines (line ++ [b])) := by
  have hbytes : Function.update (fun i => line.getD i 0) line.length b =
      fun i => (line ++ [b]).getD i 0 := by
    funext i
    rcases Nat.lt_trichotomy i line.length with hlt | rfl | hgt
    · rw [Function.update_of_ne (Nat.ne_of_lt hlt), List.getD_append _ _ _ _ hlt]
    · rw [Function.update_self, List.getD_append_right _ _ _ _ (Nat.le_refl _), Nat.sub_self]
      rfl
    · have hle : (line ++ [b]).length ≤ i := by
        rw [List.length_append]
        exact hgt
      rw [Function.update_of_ne (Nat.ne_of_gt hgt), List.getD_eq_default _ _ hle,
        List.getD_eq_default _ _ (Nat.le_of_lt hgt)]
  rw [readByte, if_neg fun hand => hnewline hand.1, if_neg fun hor => hor.elim hreturn hnewline]
  refine (if_pos h).trans ?_
  rw [holding, holding, hbytes, List.length_append]
  rfl

lemma readByte_malformed {b : UInt8} (hnewline : b ≠ 10) (hreturn : b ≠ 13) (h : line.length = 1024) :
    readByte decrypt (holding crypto lines line) b = .error (lines, .malformed) := by
  rw [readByte, if_neg fun hand => hnewline hand.1, if_neg fun hor => hor.elim hreturn hnewline]
  exact if_neg (h.symm ▸ Nat.lt_irrefl 1024)

lemma readByte_plain (h : line ≠ []) :
    readByte decrypt (holding none lines line) 10 =
      .ok (holding none (lines ++ [⟨1024, fun i => line.getD i 0⟩]) []) :=
  if_pos ⟨rfl, List.length_pos_iff.mpr h⟩

lemma readByte_outside {crypto : σ} (h : line ≠ []) (hlength : ¬keystoreLength line < 1024) :
    readByte decrypt (holding (some crypto) lines line) 10 = .error (lines, .outside) := by
  refine (if_pos ⟨rfl, List.length_pos_iff.mpr h⟩).trans ?_
  simp only [endLine, holding, strlenIn_line, if_neg hlength]

lemma readByte_encrypted {crypto : σ} (h : line ≠ []) (hlength : keystoreLength line < 1024) :
    (keystoreNext decrypt (some crypto) line = none ∧
      readByte decrypt (holding (some crypto) lines line) 10 = .error (lines, .decryption)) ∨
    ∃ crypto' more, keystoreNext decrypt (some crypto) line = some crypto' ∧
      (∀ line ∈ more, KeystoreLine.Terminated line) ∧
      readByte decrypt (holding (some crypto) lines line) 10 =
        .ok (holding crypto' (lines ++ more) []) := by
  have hend : readByte decrypt (holding (some crypto) lines line) 10 =
      endLine decrypt (holding (some crypto) lines line) :=
    if_pos ⟨rfl, List.length_pos_iff.mpr h⟩
  rw [hend]
  simp only [endLine, holding, strlenIn_line, if_pos hlength, keystoreNext]
  by_cases halign : keystoreLength line % 32 = 0
  · simp only [if_pos halign]
    cases hdecrypt : decrypt crypto ((List.range (keystoreLength line / 2)).map
        (hexToBin (keystoreLength line) fun i => line.getD i 0)) with
    | none => exact .inl ⟨rfl, rfl⟩
    | some output =>
      obtain ⟨crypto', output⟩ := output
      refine .inr ⟨some crypto', [⟨512, fun i => output.toArray.getD i 0⟩], rfl, fun line hline => ?_,
        rfl⟩
      -- aligned lines leave the last sixteen bytes of the buffer as they are
      obtain rfl := List.mem_singleton.mp hline
      have hsize : ¬511 < output.toArray.size := by
        rw [output.size_toArray, List.length_map, List.length_range]
        omega
      exact ⟨511, Nat.lt_succ_self 511, dif_neg hsize⟩
  · simp only [if_neg halign]
    exact .inr ⟨some crypto, [], rfl, fun line hline => absurd hline List.not_mem_nil,
      by rw [List.append_nil]; rfl⟩

lemma mem_lines_readByte {s : SubGhzKeystoreReader σ} {line : KeystoreLine} (hline : line ∈ s.lines)
    (b : UInt8) :
    (∃ s', readByte decrypt s b = .ok s' ∧ line ∈ s'.lines) ∨
      ∃ stop, readByte decrypt s b = .error (s.lines, stop) := by
  rw [readByte]
  split_ifs
  · rw [endLine]
    split
    · exact .inl ⟨_, rfl, List.mem_append_left _ hline⟩
    · split
      · exact .inr ⟨_, rfl⟩
      · split_ifs
        · dsimp only
          split
          · exact .inl ⟨_, rfl, List.mem_append_left _ hline⟩
          · exact .inr ⟨_, rfl⟩
        · exact .inl ⟨_, rfl, hline⟩
  · exact .inl ⟨s, rfl, hline⟩
  · exact .inl ⟨_, rfl, hline⟩
  · exact .inr ⟨_, rfl⟩

/-- A line that does not end inside its buffer makes a run unsafe. -/
lemma not_safe_of_mem {s : SubGhzKeystoreReader σ} {line : KeystoreLine} (hline : line ∈ s.lines)
    (hend : ¬line.Terminated) (content : List UInt8) :
    ¬(keystoreResult (content.foldlM (readByte decrypt) s)).Safe := by
  induction content generalizing s with
  | nil => exact fun hsafe => hend (hsafe.2 line hline)
  | cons b content ih =>
    rw [List.foldlM_cons]
    rcases @mem_lines_readByte _ decrypt s line hline b with ⟨s', hb, hmem⟩ | ⟨stop, hb⟩
    · rw [hb]
      exact ih hmem
    · rw [hb]
      exact fun hsafe => hend (hsafe.2 line hline)

lemma readChunks_eq (s : SubGhzKeystoreReader σ) (content : List UInt8) :
    readChunks decrypt s content = content.foldlM (readByte decrypt) s := by
  induction hn : content.length using Nat.strong_induction_on generalizing s content with
  | h n ih =>
    rw [readChunks]
    split_ifs with hnil
    · rw [hnil]
      rfl
    · have hpos := List.length_pos_iff.mpr hnil
      have hdrop : (content.drop 64).length < n := by
        rw [List.length_drop]
        omega
      calc ((content.take 64).foldlM (readByte decrypt) s >>= fun s =>
            readChunks decrypt s (content.drop 64))
          = ((content.take 64).foldlM (readByte decrypt) s >>= fun s =>
            (content.drop 64).foldlM (readByte decrypt) s) :=
            congrArg _ (funext fun s => ih _ hdrop s _ rfl)
        _ = content.foldlM (readByte decrypt) s := by
            rw [← List.foldlM_append, List.take_append_drop]

end SubGhzKeystoreReader

variable {decrypt}

lemma keystoreFits_of_long (crypto : Option σ) {line : List UInt8} (h : 1024 < line.length)
    (content : List UInt8) : KeystoreFits decrypt crypto (keystoreLines line content) := by
  induction content generalizing line with
  | nil => trivial
  | cons b content ih =>
    rw [keystoreLines]
    split_ifs with hnewline hnil hreturn
    · exact absurd (hnil ▸ h) (Nat.not_lt_zero _)
    · exact fun hle => absurd h (Nat.not_lt.mpr hle)
    · exact ih h
    · exact ih (h.trans_le (by rw [List.length_append]; exact Nat.le_add_right _ _))

/-- A run is safe from any place in a line if and only if no line that is reached fills the
buffer. -/
lemma safe_foldlM_iff (content : List UInt8) (crypto : Option σ)
    {lines : List KeystoreLine} (hlines : ∀ line ∈ lines, line.Terminated) {line : List UInt8}
    (hlength : line.length ≤ 1024) :
    (keystoreResult (content.foldlM (SubGhzKeystoreReader.readByte decrypt)
      (.holding crypto lines line))).Safe ↔
      KeystoreFits decrypt crypto (keystoreLines line content) := by
  induction content generalizing crypto lines line with
  | nil => exact iff_of_true ⟨nofun, hlines⟩ trivial
  | cons b content ih =>
    rw [List.foldlM_cons]
    have hnext (line : List UInt8) (hlength : line.length ≤ 1024) := ih crypto hlines hlength
    have hafter (more : List KeystoreLine) (hmore : ∀ line ∈ more, line.Terminated)
        (crypto' : Option σ) := @ih crypto' (lines ++ more)
      (fun line hline => (List.mem_append.mp hline).elim (hlines line) (hmore line)) [] (Nat.zero_le _)
    by_cases hnewline : b = 10
    · subst hnewline
      by_cases hnil : line = []
      · subst hnil
        exact hnext [] (Nat.zero_le _)
      · have hrest : keystoreLines line (10 :: content) = line :: keystoreLines [] content := by
          rw [keystoreLines, if_pos rfl, if_neg hnil]
        rw [hrest]
        by_cases hlt : keystoreLength line < 1024
        · have hfits := (keystoreLength_lt_iff hlength).mp hlt
          cases crypto with
          | none =>
            rw [SubGhzKeystoreReader.readByte_plain hnil]
            refine (hafter _ ?_ none).trans ⟨fun h _ => ⟨hfits, ?_⟩, fun h => (h hlength).2 none rfl⟩
            · intro line' hline'
              rw [List.mem_singleton.mp hline']
              exact (terminated_line_iff line).mpr hlt
            · intro crypto' hcrypto'
              exact Option.some.inj hcrypto' ▸ h
          | some crypto =>
            rcases @SubGhzKeystoreReader.readByte_encrypted _ decrypt lines line crypto hnil hlt with
              ⟨hstate, hbyte⟩ | ⟨crypto', more, hstate, hmore, hbyte⟩
            · rw [hbyte]
              refine iff_of_true ⟨nofun, hlines⟩ fun _ => ⟨hfits, fun crypto' hcrypto' => ?_⟩
              rw [hstate] at hcrypto'
              exact absurd hcrypto'.symm (Option.some_ne_none crypto')
            · rw [hbyte]
              refine (hafter more hmore crypto').trans
                ⟨fun h _ => ⟨hfits, fun crypto'' hcrypto'' => ?_⟩, fun h => (h hlength).2 crypto' hstate⟩
              rw [hstate] at hcrypto''
              exact Option.some.inj hcrypto'' ▸ h
        · have hfull : ¬KeystoreFits decrypt crypto (line :: keystoreLines [] content) := fun h =>
            hlt ((keystoreLength_lt_iff hlength).mpr (h hlength).1)
          refine iff_of_false ?_ hfull
          cases crypto with
          | none =>
            rw [SubGhzKeystoreReader.readByte_plain hnil]
            exact SubGhzKeystoreReader.not_safe_of_mem
              (List.mem_append_right _ (List.mem_singleton.mpr rfl))
              (fun hend => hlt ((terminated_line_iff line).mp hend)) content
          | some crypto =>
            rw [SubGhzKeystoreReader.readByte_outside hnil hlt]
            exact fun hsafe => hsafe.1 rfl
    · by_cases hreturn : b = 13
      · subst hreturn
        exact hnext line hlength
      · have hrest : keystoreLines line (b :: content) = keystoreLines (line ++ [b]) content := by
          rw [keystoreLines, if_neg hnewline, if_neg hreturn]
        have happend : (line ++ [b]).length = line.length + 1 := by
          rw [List.length_append]
          rfl
        rw [hrest]
        rcases Nat.lt_or_eq_of_le hlength with hlt | heq
        · rw [SubGhzKeystoreReader.readByte_put hnewline hreturn hlt]
          exact hnext (line ++ [b]) (happend.trans_le hlt)
        · rw [SubGhzKeystoreReader.readByte_malformed hnewline hreturn heq]
          exact iff_of_true ⟨nofun, hlines⟩
            (keystoreFits_of_long crypto (by omega) content)

lemma safe_readChunks_iff (content : List UInt8) (crypto : Option σ) :
    (keystoreResult ((SubGhzKeystoreReader.start crypto).readChunks decrypt content)).Safe ↔
      KeystoreFits decrypt crypto (keystoreLines [] content) := by
  have hstart : SubGhzKeystoreReader.start crypto = .holding crypto [] [] := rfl
  have hempty : ([] : List UInt8).length ≤ 1024 := Nat.zero_le 1024
  rw [SubGhzKeystoreReader.readChunks_eq, hstart]
  exact safe_foldlM_iff content crypto (fun _ hline => absurd hline List.not_mem_nil) hempty

/-- Reading a keystore is safe if and only if the key cannot be loaded or no line that is reached
fills the buffer. -/
theorem subghzKeystoreReadFile_safe_iff
    (decrypt : σ → (input : List UInt8) → Option (σ × Vector UInt8 input.length))
    (iv : Option (Option σ)) (content : List UInt8) :
    (subghzKeystoreReadFile decrypt iv content).Safe ↔
      iv = some none ∨ KeystoreFits decrypt iv.join (keystoreLines [] content) := by
  match iv with
  | some none          => exact iff_of_true ⟨nofun, fun _ hline => absurd hline List.not_mem_nil⟩ (.inl rfl)
  | none               => exact (safe_readChunks_iff content none).trans (or_iff_right nofun).symm
  | some (some crypto) =>
    exact (safe_readChunks_iff content (some crypto)).trans (or_iff_right nofun).symm

lemma keystoreLines_append (line : List UInt8) {bytes : List UInt8}
    (h : ∀ b ∈ bytes, b ≠ 10 ∧ b ≠ 13) (content : List UInt8) :
    keystoreLines line (bytes ++ content) = keystoreLines (line ++ bytes) content := by
  induction bytes generalizing line with
  | nil => rw [List.nil_append, List.append_nil]
  | cons b bytes ih =>
    obtain ⟨hnewline, hreturn⟩ := h b List.mem_cons_self
    rw [List.cons_append, keystoreLines, if_neg hnewline, if_neg hreturn,
      ih _ fun c hc => h c (List.mem_cons_of_mem b hc), List.append_assoc, List.singleton_append]

lemma not_safe_of_full {line : List UInt8} (hlength : line.length = 1024)
    (hbytes : ∀ b ∈ line, b ≠ 10 ∧ b ≠ 13) (hzero : 0 ∉ line) :
    ¬(subghzKeystoreReadFile decrypt none (line ++ [10])).Safe := by
  have hne : line ≠ [] := by
    rintro rfl
    exact absurd hlength (by decide)
  have hlines : keystoreLines [] (line ++ [10]) = [line] := by
    rw [keystoreLines_append [] hbytes, List.nil_append, keystoreLines, if_pos rfl, if_neg hne]
    rfl
  intro hsafe
  have hfits := (safe_readChunks_iff _ none).mp hsafe
  rw [hlines] at hfits
  exact (hfits hlength.le).1 ⟨hlength, hzero⟩

theorem not_subghzKeystoreReadFile_safe :
    ¬∀ content, (subghzKeystoreReadFile (fun (_ : Unit) _ => none) none content).Safe := by
  intro h
  have hbytes (b : UInt8) (hb : b ∈ List.replicate 1024 65) : b = 65 := List.eq_of_mem_replicate hb
  refine not_safe_of_full List.length_replicate (fun b hb => ?_) (fun hzero => ?_)
    (h (List.replicate 1024 65 ++ [10]))
  · rw [hbytes b hb]
    decide
  · exact absurd (hbytes 0 hzero) (by decide)

end FlipperZero
