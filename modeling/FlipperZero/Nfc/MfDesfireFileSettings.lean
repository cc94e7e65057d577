import FlipperZero.Foundation.Reads
import FlipperZero.Toolbox.BitBuffer

/-!
# The settings of a DESFire file, as a card sends them

`mf_desfire_file_settings_parse` reads a header, a part that depends on the type of the file, and
a list of further access rights that a bit of the header announces. Only the length of the
shortest answer is checked at the beginning, and the list is copied from its count on.
-/

namespace FlipperZero

open Foundation Reads

def mfDesfireMaxKeys : Nat := 14

inductive MfDesfireFileType where
  | standard
  | backup
  | value
  | linearRecord
  | cyclicRecord
  deriving DecidableEq, Repr

def mfDesfireFileType (byte : BitVec 8) : Option MfDesfireFileType :=
  if byte = 0 then some .standard
  else if byte = 1 then some .backup
  else if byte = 2 then some .value
  else if byte = 3 then some .linearRecord
  else if byte = 4 then some .cyclicRecord
  else none

/-- The part of the settings that depends on the type. -/
inductive MfDesfireFileContents where
  | data (size : BitVec 24)
  | value (loLimit hiLimit limitedCreditValue : BitVec 32) (limitedCreditEnabled : Bool)
  | record (size max cur : BitVec 24)
  deriving DecidableEq, Repr

structure MfDesfireFileSettings where
  type : MfDesfireFileType
  comm : BitVec 8
  accessRights : Nat → BitVec 16
  accessRightsLen : Nat
  contents : MfDesfireFileContents

/-- What a call leaves: the settings when it returns true, and the entries of `access_rights` that
it has written. -/
structure MfDesfireParsed where
  settings : Option MfDesfireFileSettings
  written : List Nat

/-! ### Parser -/

/-- `memcpy` from the buffer into a part of `layout`. -/
def mfDesfireCopy (buf : BitBuffer) (start n : Nat) : Reads Memory :=
  readRange start n (some fun i => buf.data (start + i))

/-- `bit_buffer_get_byte`. -/
def mfDesfireGetByte (buf : BitBuffer) (index : Nat) : Reads (BitVec 8) :=
  if index < buf.capacityBytes then readAt buf.data index else check none

/-- The size of the part behind the header. -/
def mfDesfireContentsSize : MfDesfireFileType → Nat
  | .standard | .backup           => 3
  | .value                        => 13
  | .linearRecord | .cyclicRecord => 9

/-- `bytes_processed` behind that part. -/
def mfDesfireBytesProcessed (type : MfDesfireFileType) : Nat := 4 + mfDesfireContentsSize type

/-- The branches of `mf_desfire_file_settings_parse` on the type. -/
def mfDesfireContentsParse (buf : BitBuffer) (type : MfDesfireFileType) :
    Reads MfDesfireFileContents := do
  let layout ← mfDesfireCopy buf 4 (mfDesfireContentsSize type)
  match type with
  | .standard | .backup => pure (.data (Memory.load 24 layout 0))
  | .value =>
    pure (.value (Memory.load 32 layout 0) (Memory.load 32 layout 4) (Memory.load 32 layout 8)
      (layout 12 != 0))
  | .linearRecord | .cyclicRecord =>
    pure (.record (Memory.load 24 layout 0) (Memory.load 24 layout 3) (Memory.load 24 layout 6))

/-- The branch for the list of further access rights. -/
def mfDesfireAdditionalRightsParse (buf : BitBuffer) (processed : Nat)
    (settings : MfDesfireFileSettings) : Reads MfDesfireParsed := do
  let additionalLen ← mfDesfireGetByte buf processed
  let len := additionalLen.toNat
  if buf.getSizeBytes ≠ processed + len * 2 + 1 then
    -- the answer is printed
    (List.range buf.getSizeBytes).forM fun i => do
      let _ ← mfDesfireGetByte buf i
      pure ()
    pure ⟨none, [0]⟩
  else if mfDesfireMaxKeys * 2 < len then pure ⟨none, [0]⟩
  else do
    let rights ← mfDesfireCopy buf processed (len * 2)
    let settings := { settings with
      accessRights := fun i =>
        if 1 ≤ i ∧ i < 1 + len then Memory.load 16 rights (2 * (i - 1))
        else settings.accessRights i
      accessRightsLen := settings.accessRightsLen + len }
    pure ⟨some settings, 0 :: (List.range len).map (1 + ·)⟩

def mfDesfireFileSettingsParse (buf : BitBuffer) : Reads MfDesfireParsed :=
  if buf.getSizeBytes < 7 then pure ⟨none, []⟩
  else do
    let header ← mfDesfireCopy buf 0 4
    let comm := header 1
    match mfDesfireFileType (header 0) with
    | none => pure ⟨none, [0]⟩
    | some type => do
      let contents ← mfDesfireContentsParse buf type
      let settings : MfDesfireFileSettings :=
        { type, comm := comm &&& 0x03
          accessRights := fun i => if i = 0 then Memory.load 16 header 2 else 0
          accessRightsLen := 1, contents }
      if comm &&& 0x80 ≠ 0 then
        mfDesfireAdditionalRightsParse buf (mfDesfireBytesProcessed type) settings
      else pure ⟨some settings, [0]⟩

/-! ### What the parser is to do -/

/-- The words of an answer: the one of the header, and the announced ones behind the count. -/
def mfDesfireAccessRightsSent (buf : BitBuffer) (type : MfDesfireFileType) : List (BitVec 16) :=
  Memory.load 16 buf.data 2 ::
    if buf.data 1 &&& 0x80 ≠ 0 then
      (List.range (buf.data (mfDesfireBytesProcessed type)).toNat).map fun i =>
        Memory.load 16 buf.data (mfDesfireBytesProcessed type + 1 + 2 * i)
    else []

def MfDesfireFileSettings.rights (settings : MfDesfireFileSettings) : List (BitVec 16) :=
  (List.range settings.accessRightsLen).map settings.accessRights

/-- A call reads inside the answer, fires no check, writes inside `access_rights`, and takes the
words over that have been sent. -/
structure MfDesfireParses (buf : BitBuffer) : Prop where
  inside : (mfDesfireFileSettingsParse buf).Inside buf.getSizeBytes
  written : ∀ parsed, (mfDesfireFileSettingsParse buf).value = some parsed →
    ∀ i ∈ parsed.written, i < mfDesfireMaxKeys
  rights : ∀ parsed settings, (mfDesfireFileSettingsParse buf).value = some parsed →
    parsed.settings = some settings → settings.rights = mfDesfireAccessRightsSent buf settings.type

/-- An announced list that the parser copies as it is: it fits, and all of its bytes are equal to
the count, so that the bytes from the count on are those behind it. -/
def MfDesfireListFits (buf : BitBuffer) (processed : Nat) : Prop :=
  processed < buf.getSizeBytes ∧
    ((buf.data processed).toNat ≤ mfDesfireMaxKeys * 2 →
      buf.getSizeBytes = processed + (buf.data processed).toNat * 2 + 1 →
      (buf.data processed).toNat < mfDesfireMaxKeys ∧
        ∀ j < 2 * (buf.data processed).toNat, buf.data (processed + 1 + j) = buf.data processed)

/-- The answers that the parser handles: too short ones, ones of an unknown type, and ones that are
as long as their type asks for, with a list that fits if one is announced. -/
def MfDesfireAnswerFits (buf : BitBuffer) : Prop :=
  7 ≤ buf.getSizeBytes → ∀ type, mfDesfireFileType (buf.data 0) = some type →
    mfDesfireBytesProcessed type ≤ buf.getSizeBytes ∧
      (buf.data 1 &&& 0x80 ≠ 0 → MfDesfireListFits buf (mfDesfireBytesProcessed type))

variable {buf : BitBuffer} {settings : MfDesfireFileSettings} {type : MfDesfireFileType}

/-! ### What the parts read -/

lemma load16_eq_iff {mem mem' : Memory} {a a' : Nat} :
    Memory.load 16 mem a = Memory.load 16 mem' a' ↔
      mem a = mem' a' ∧ mem (a + 1) = mem' (a' + 1) := by
  have hbits (m : Memory) (b k : Nat) (hk : k < 16) :
      (Memory.load 16 m b).getLsbD k = (m (b + k / 8)).getLsbD (k % 8) :=
    Memory.getLsbD_load (w := 16) hk m b
  constructor
  · intro h
    constructor
    · apply BitVec.eq_of_getLsbD_eq
      intro j hj
      have hlow := congrArg (·.getLsbD j) h
      simp only [hbits _ _ j (by omega), Nat.div_eq_of_lt hj, Nat.mod_eq_of_lt hj] at hlow
      exact hlow
    · apply BitVec.eq_of_getLsbD_eq
      intro j hj
      have hhigh := congrArg (·.getLsbD (8 + j)) h
      have hdiv : (8 + j) / 8 = 1 := by omega
      have hmod : (8 + j) % 8 = j := by omega
      simp only [hbits _ _ (8 + j) (by omega), hdiv, hmod] at hhigh
      exact hhigh
  · rintro ⟨hlow, hhigh⟩
    apply BitVec.eq_of_getLsbD_eq
    intro k hk
    rw [hbits _ _ k hk, hbits _ _ k hk]
    rcases Nat.lt_or_ge k 8 with hlt | hge
    · rw [Nat.div_eq_of_lt hlt, Nat.add_zero, Nat.add_zero, hlow]
    · rw [show k / 8 = 1 by omega, hhigh]

lemma mfDesfireCopy_value (start n : Nat) :
    (mfDesfireCopy buf start n).value = some fun i => buf.data (start + i) := value_readRange

lemma mfDesfireCopy_inside {start n k : Nat} (hn : n ≠ 0) :
    (mfDesfireCopy buf start n).Inside k ↔ start + n ≤ k := by
  simp only [mfDesfireCopy, Inside, readRange, Option.isSome_some, true_and, List.mem_map,
    List.mem_range]
  constructor
  · intro h
    have hlast := h (start + (n - 1)) ⟨n - 1, by omega, rfl⟩
    omega
  · rintro h i ⟨j, hj, rfl⟩
    omega

lemma mfDesfireGetByte_inside {k i : Nat} (hk : k ≤ buf.capacityBytes) :
    (mfDesfireGetByte buf i).Inside k ↔ i < k := by
  rw [mfDesfireGetByte]
  split
  · exact inside_readAt
  · simp only [inside_check, Option.isSome_none, Bool.false_eq_true, false_iff]
    omega

lemma mfDesfireGetByte_value {i : Nat} (hi : i < buf.capacityBytes) :
    (mfDesfireGetByte buf i).value = some (buf.data i) := by
  rw [mfDesfireGetByte, if_pos hi]
  rfl

lemma mfDesfireContentsParse_spec (buf : BitBuffer) (type : MfDesfireFileType) :
    (∃ contents, (mfDesfireContentsParse buf type).value = some contents) ∧
      ∀ k, (mfDesfireContentsParse buf type).Inside k ↔ mfDesfireBytesProcessed type ≤ k := by
  have hsize : mfDesfireContentsSize type ≠ 0 := by cases type <;> decide
  constructor
  · rw [mfDesfireContentsParse]
    cases type <;> exact ⟨_, by rw [value_bind, mfDesfireCopy_value, Option.bind_some]; rfl⟩
  · intro k
    rw [mfDesfireContentsParse, inside_bind_of_value (mfDesfireCopy_value _ _),
      mfDesfireCopy_inside hsize, mfDesfireBytesProcessed]
    cases type <;> simp

/-! ### The list of further access rights -/

lemma mfDesfirePrint_inside (hcap : buf.getSizeBytes ≤ buf.capacityBytes) :
    ((List.range buf.getSizeBytes).forM fun i => do
      let _ ← mfDesfireGetByte buf i
      pure ()).Inside buf.getSizeBytes := by
  apply inside_forM.mpr
  intro i hi
  have hi := List.mem_range.mp hi
  rw [inside_bind_of_value (mfDesfireGetByte_value (by omega)), mfDesfireGetByte_inside hcap]
  exact ⟨hi, inside_pure _⟩

/-- The settings with the list taken over. -/
def MfDesfireFileSettings.withRights (settings : MfDesfireFileSettings) (rights : Memory)
    (len : Nat) : MfDesfireFileSettings :=
  { settings with
    accessRights := fun i =>
      if 1 ≤ i ∧ i < 1 + len then Memory.load 16 rights (2 * (i - 1)) else settings.accessRights i
    accessRightsLen := settings.accessRightsLen + len }

lemma mfDesfireAdditionalRightsParse_inside {processed : Nat}
    (hcap : buf.getSizeBytes ≤ buf.capacityBytes) :
    (mfDesfireAdditionalRightsParse buf processed settings).Inside buf.getSizeBytes ↔
      processed < buf.getSizeBytes := by
  rw [mfDesfireAdditionalRightsParse, inside_bind, mfDesfireGetByte_inside hcap]
  refine and_iff_left_of_imp fun hlt len hlen => ?_
  rw [mfDesfireGetByte_value (by omega), Option.some.injEq] at hlen
  subst hlen
  dsimp only
  split
  · rw [inside_bind]
    exact ⟨mfDesfirePrint_inside hcap, fun _ _ => inside_pure _⟩
  next hsize =>
  split
  · exact inside_pure _
  · rw [inside_bind_of_value (mfDesfireCopy_value _ _)]
    refine ⟨?_, inside_pure _⟩
    by_cases hzero : (buf.data processed).toNat = 0
    · rw [hzero]
      exact ⟨rfl, fun _ hi => absurd hi List.not_mem_nil⟩
    · rw [mfDesfireCopy_inside (by omega)]
      omega

def MfDesfireListTaken (buf : BitBuffer) (processed : Nat) : Prop :=
  (buf.data processed).toNat ≤ mfDesfireMaxKeys * 2 ∧
    buf.getSizeBytes = processed + (buf.data processed).toNat * 2 + 1

variable (settings) in
lemma mfDesfireAdditionalRightsParse_taken {processed : Nat}
    (hcap : buf.getSizeBytes ≤ buf.capacityBytes) (htaken : MfDesfireListTaken buf processed) :
    (mfDesfireAdditionalRightsParse buf processed settings).value =
      some ⟨some (settings.withRights (fun i => buf.data (processed + i))
        (buf.data processed).toNat), 0 :: (List.range (buf.data processed).toNat).map (1 + ·)⟩ := by
  obtain ⟨hlen, hsize⟩ := htaken
  rw [mfDesfireAdditionalRightsParse, value_bind, mfDesfireGetByte_value (by omega),
    Option.bind_some, if_neg (not_not.mpr hsize), if_neg (Nat.not_lt.mpr hlen), value_bind,
    mfDesfireCopy_value, Option.bind_some]
  rfl

lemma mfDesfireAdditionalRightsParse_refused {processed : Nat} {parsed : MfDesfireParsed}
    (hlt : processed < buf.getSizeBytes) (hcap : buf.getSizeBytes ≤ buf.capacityBytes)
    (htaken : ¬MfDesfireListTaken buf processed)
    (h : (mfDesfireAdditionalRightsParse buf processed settings).value = some parsed) :
    parsed = ⟨none, [0]⟩ := by
  rw [mfDesfireAdditionalRightsParse, value_bind, mfDesfireGetByte_value (by omega),
    Option.bind_some] at h
  dsimp only at h
  split at h
  · rw [value_bind, Option.bind_eq_some_iff] at h
    obtain ⟨_, -, h⟩ := h
    exact (Option.some.inj h).symm
  next hsize =>
  split at h
  · exact (Option.some.inj h).symm
  next hlen =>
  exact absurd ⟨Nat.not_lt.mp hlen, not_not.mp hsize⟩ htaken

/-- Words copied from one byte too early are the right ones when all bytes are the same. -/
lemma words_shifted_iff {mem : Memory} {a len : Nat} :
    (∀ i < len, Memory.load 16 mem (a + 2 * i) = Memory.load 16 mem (a + 1 + 2 * i)) ↔
      ∀ j < 2 * len, mem (a + 1 + j) = mem a := by
  constructor
  · intro h j
    induction j with
    | zero =>
      intro hj
      exact (load16_eq_iff.mp (h 0 (by omega))).1.symm
    | succ j ih =>
      intro hj
      rw [← ih (by omega)]
      obtain ⟨hlow, hhigh⟩ := load16_eq_iff.mp (h ((j + 1) / 2) (by omega))
      rcases Nat.even_or_odd' j with ⟨i, rfl | rfl⟩
      · rw [show (2 * i + 1) / 2 = i by omega] at hhigh
        rw [show a + 1 + (2 * i + 1) = a + 1 + 2 * i + 1 by omega, ← hhigh]
        exact congrArg mem (by omega)
      · rw [show (2 * i + 1 + 1) / 2 = i + 1 by omega] at hlow
        rw [show a + 1 + (2 * i + 1 + 1) = a + 1 + 2 * (i + 1) by omega, ← hlow]
        exact congrArg mem (by omega)
  · intro h i hi
    have hat (j : Nat) (hj : j ≤ 2 * len) : mem (a + j) = mem a := by
      cases j with
      | zero   => rfl
      | succ j => rw [← h j (by omega)]; exact congrArg mem (by omega)
    apply load16_eq_iff.mpr
    rw [show a + 1 + 2 * i = a + (2 * i + 1) by omega, Nat.add_assoc a (2 * i) 1,
      Nat.add_assoc a (2 * i + 1) 1, hat _ (by omega), hat _ (by omega), hat _ (by omega)]
    exact ⟨rfl, rfl⟩

lemma withRights_rights {rights : Memory} {len : Nat} (hone : settings.accessRightsLen = 1) :
    (settings.withRights rights len).rights = settings.accessRights 0 ::
      (List.range len).map fun i => Memory.load 16 rights (2 * i) := by
  rw [MfDesfireFileSettings.rights, MfDesfireFileSettings.withRights, hone, Nat.add_comm 1 len,
    List.range_succ_eq_map, List.map_cons, List.map_map]
  dsimp only
  rw [if_neg (by omega)]
  refine congrArg _ (List.map_congr_left fun i hi => ?_)
  have hi := List.mem_range.mp hi
  show (if 1 ≤ i + 1 ∧ i + 1 < len + 1 then _ else _) = _
  rw [if_pos (by omega)]
  rfl

/-! ### All answers -/

/-- The settings that the header and the part behind it give. -/
def mfDesfireHeaderSettings (buf : BitBuffer) (type : MfDesfireFileType)
    (contents : MfDesfireFileContents) : MfDesfireFileSettings where
  type
  comm := buf.data 1 &&& 0x03
  accessRights i := if i = 0 then Memory.load 16 buf.data 2 else 0
  accessRightsLen := 1
  contents

variable (type) in
lemma list_fits_iff {processed : Nat} (contents : MfDesfireFileContents)
    (hcap : buf.getSizeBytes ≤ buf.capacityBytes) (hlt : processed < buf.getSizeBytes) :
    ((∀ parsed, (mfDesfireAdditionalRightsParse buf processed
        (mfDesfireHeaderSettings buf type contents)).value = some parsed →
          ∀ i ∈ parsed.written, i < mfDesfireMaxKeys) ∧
      ∀ parsed settings, (mfDesfireAdditionalRightsParse buf processed
        (mfDesfireHeaderSettings buf type contents)).value = some parsed →
          parsed.settings = some settings → settings.rights = Memory.load 16 buf.data 2 ::
            (List.range (buf.data processed).toNat).map fun i =>
              Memory.load 16 buf.data (processed + 1 + 2 * i)) ↔
    MfDesfireListFits buf processed := by
  by_cases htaken : MfDesfireListTaken buf processed
  · have hparsed := mfDesfireAdditionalRightsParse_taken
      (mfDesfireHeaderSettings buf type contents) hcap htaken
    have hwords : ((List.range (buf.data processed).toNat).map (fun i =>
        Memory.load 16 (fun j => buf.data (processed + j)) (2 * i)) =
          (List.range (buf.data processed).toNat).map fun i =>
            Memory.load 16 buf.data (processed + 1 + 2 * i)) ↔
        ∀ i < (buf.data processed).toNat, Memory.load 16 buf.data (processed + 2 * i) =
          Memory.load 16 buf.data (processed + 1 + 2 * i) := by
      have hfrom (i : Nat) : Memory.load 16 (fun j => buf.data (processed + j)) (2 * i) =
          Memory.load 16 buf.data (processed + 2 * i) := load16_eq_iff.mpr ⟨rfl, rfl⟩
      simp only [hfrom, List.map_inj_left, List.mem_range]
    constructor
    · rintro ⟨hwritten, hrights⟩
      refine ⟨hlt, fun _ _ => ⟨?_, words_shifted_iff.mp (hwords.mp ?_)⟩⟩
      · by_cases hzero : (buf.data processed).toNat = 0
        · rw [hzero]
          decide
        · have hlast := hwritten _ hparsed (1 + ((buf.data processed).toNat - 1))
            (List.mem_cons_of_mem _ (List.mem_map.mpr ⟨_, List.mem_range.mpr (by omega), rfl⟩))
          omega
      · have hlist := hrights _ _ hparsed rfl
        rw [withRights_rights rfl] at hlist
        exact (List.cons.inj hlist).2
    · rintro ⟨-, hfits⟩
      obtain ⟨hlen, hbytes⟩ := hfits htaken.1 htaken.2
      constructor
      · intro parsed hvalue i hi
        obtain rfl := Option.some.inj (hparsed.symm.trans hvalue)
        rcases List.mem_cons.mp hi with rfl | hi
        · decide
        · obtain ⟨j, hj, rfl⟩ := List.mem_map.mp hi
          have hj := List.mem_range.mp hj
          omega
      · intro parsed settings hvalue hsettings
        obtain rfl := Option.some.inj (hparsed.symm.trans hvalue)
        obtain rfl := Option.some.inj hsettings
        rw [withRights_rights rfl]
        exact congrArg _ (hwords.mpr (words_shifted_iff.mpr hbytes))
  · have hfits : MfDesfireListFits buf processed :=
      ⟨hlt, fun hlen hsize => absurd ⟨hlen, hsize⟩ htaken⟩
    refine iff_of_true ⟨fun parsed hparsed => ?_, fun parsed settings hparsed hsettings => ?_⟩ hfits
    · rw [mfDesfireAdditionalRightsParse_refused hlt hcap htaken hparsed]
      decide
    · rw [mfDesfireAdditionalRightsParse_refused hlt hcap htaken hparsed] at hsettings
      cases hsettings

/-- What a call does with an answer of a known type that is not too short. -/
lemma mfDesfireFileSettingsParse_known (hsize : 7 ≤ buf.getSizeBytes)
    (htype : mfDesfireFileType (buf.data 0) = some type) : ∃ contents,
    (mfDesfireFileSettingsParse buf).value = (if buf.data 1 &&& 0x80 ≠ 0 then
        mfDesfireAdditionalRightsParse buf (mfDesfireBytesProcessed type)
          (mfDesfireHeaderSettings buf type contents)
      else pure ⟨some (mfDesfireHeaderSettings buf type contents), [0]⟩ : Reads _).value ∧
    ((mfDesfireFileSettingsParse buf).Inside buf.getSizeBytes ↔
      mfDesfireBytesProcessed type ≤ buf.getSizeBytes ∧
        (if buf.data 1 &&& 0x80 ≠ 0 then
            mfDesfireAdditionalRightsParse buf (mfDesfireBytesProcessed type)
              (mfDesfireHeaderSettings buf type contents)
          else pure ⟨some (mfDesfireHeaderSettings buf type contents), [0]⟩ : Reads _).Inside
            buf.getSizeBytes) := by
  obtain ⟨⟨contents, hcontents⟩, hinside⟩ := mfDesfireContentsParse_spec buf type
  have hheader : (fun i => buf.data (0 + i)) = buf.data := funext fun i => by rw [Nat.zero_add]
  refine ⟨contents, ?_, ?_⟩
  · rw [mfDesfireFileSettingsParse, if_neg (by omega), value_bind, mfDesfireCopy_value,
      Option.bind_some, hheader, htype]
    simp only
    rw [value_bind, hcontents, Option.bind_some]
    rfl
  · rw [mfDesfireFileSettingsParse, if_neg (by omega),
      inside_bind_of_value (mfDesfireCopy_value _ _), mfDesfireCopy_inside (by decide), hheader,
      htype]
    simp only
    rw [inside_bind_of_value hcontents, hinside]
    exact and_iff_right (by omega)

lemma mfDesfireAdditionalRightsParse_type {processed : Nat} {parsed : MfDesfireParsed}
    {settings' : MfDesfireFileSettings} (hlt : processed < buf.getSizeBytes)
    (hcap : buf.getSizeBytes ≤ buf.capacityBytes)
    (h : (mfDesfireAdditionalRightsParse buf processed settings).value = some parsed)
    (hsettings : parsed.settings = some settings') : settings'.type = settings.type := by
  by_cases htaken : MfDesfireListTaken buf processed
  · rw [mfDesfireAdditionalRightsParse_taken _ hcap htaken, Option.some.injEq] at h
    subst h
    obtain rfl := Option.some.inj hsettings
    rfl
  · rw [mfDesfireAdditionalRightsParse_refused hlt hcap htaken h] at hsettings
    cases hsettings

/-- Answers that are refused at the beginning are read inside. -/
lemma mfDesfireFileSettingsParse_refused
    (h : buf.getSizeBytes < 7 ∨ mfDesfireFileType (buf.data 0) = none) :
    MfDesfireParses buf := by
  have hrefused : ∃ written, (mfDesfireFileSettingsParse buf).value = some ⟨none, written⟩ ∧
      (∀ i ∈ written, i < mfDesfireMaxKeys) ∧
      (mfDesfireFileSettingsParse buf).Inside buf.getSizeBytes := by
    by_cases hshort : buf.getSizeBytes < 7
    · rw [mfDesfireFileSettingsParse, if_pos hshort]
      exact ⟨[], rfl, nofun, inside_pure _⟩
    · have hheader : (fun i => buf.data (0 + i)) = buf.data := funext fun i => by rw [Nat.zero_add]
      refine ⟨[0], ?_, by decide, ?_⟩
      · rw [mfDesfireFileSettingsParse, if_neg hshort, value_bind, mfDesfireCopy_value,
          Option.bind_some, hheader, h.resolve_left hshort]
        rfl
      · rw [mfDesfireFileSettingsParse, if_neg hshort,
          inside_bind_of_value (mfDesfireCopy_value _ _), mfDesfireCopy_inside (by decide),
          hheader, h.resolve_left hshort]
        exact ⟨by omega, inside_pure _⟩
  obtain ⟨written, hvalue, hwritten, hinside⟩ := hrefused
  refine ⟨hinside, fun parsed hparsed => ?_, fun parsed settings hparsed hsettings => ?_⟩
  · obtain rfl := Option.some.inj (hvalue.symm.trans hparsed)
    exact hwritten
  · obtain rfl := Option.some.inj (hvalue.symm.trans hparsed)
    cases hsettings

/-- The parser handles an answer exactly when it is as long as its type asks for and an announced
list fits. -/
theorem mfDesfireFileSettingsParse_iff (buf : BitBuffer)
    (hcap : buf.getSizeBytes ≤ buf.capacityBytes) :
    MfDesfireParses buf ↔ MfDesfireAnswerFits buf := by
  by_cases hshort : buf.getSizeBytes < 7
  · exact iff_of_true (mfDesfireFileSettingsParse_refused (.inl hshort))
      fun hsize => absurd hshort (Nat.not_lt.mpr hsize)
  cases htype : mfDesfireFileType (buf.data 0) with
  | none =>
    refine iff_of_true (mfDesfireFileSettingsParse_refused (.inr htype)) fun _ type h => ?_
    rw [htype] at h
    cases h
  | some type =>
    have hsize := Nat.not_lt.mp hshort
    obtain ⟨contents, hvalue, hinside⟩ := mfDesfireFileSettingsParse_known hsize htype
    have hfits : MfDesfireAnswerFits buf ↔ mfDesfireBytesProcessed type ≤ buf.getSizeBytes ∧
        (buf.data 1 &&& 0x80 ≠ 0 → MfDesfireListFits buf (mfDesfireBytesProcessed type)) :=
      ⟨fun h => h hsize type htype, fun h _ type' htype' => by
        obtain rfl := Option.some.inj (htype.symm.trans htype')
        exact h⟩
    rw [hfits]
    by_cases hflag : buf.data 1 &&& 0x80 ≠ 0
    · rw [if_pos hflag] at hvalue hinside
      rw [mfDesfireAdditionalRightsParse_inside hcap] at hinside
      have hsent : mfDesfireAccessRightsSent buf type = Memory.load 16 buf.data 2 ::
          (List.range (buf.data (mfDesfireBytesProcessed type)).toNat).map fun i =>
            Memory.load 16 buf.data (mfDesfireBytesProcessed type + 1 + 2 * i) := by
        rw [mfDesfireAccessRightsSent, if_pos hflag]
      constructor
      · rintro ⟨hins, hwritten, hrights⟩
        obtain ⟨hle, hlt⟩ := hinside.mp hins
        refine ⟨hle, fun _ => (list_fits_iff type contents hcap hlt).mp ?_⟩
        rw [hvalue] at hwritten hrights
        refine ⟨hwritten, fun parsed settings hparsed hsettings => ?_⟩
        have htype' := mfDesfireAdditionalRightsParse_type hlt hcap hparsed hsettings
        rw [hrights parsed settings hparsed hsettings, htype']
        exact hsent
      · rintro ⟨hle, hlist⟩
        have hlt := (hlist hflag).1
        obtain ⟨hwritten, hrights⟩ :=
          (list_fits_iff type contents hcap hlt).mpr (hlist hflag)
        refine ⟨hinside.mpr ⟨hle, hlt⟩, hvalue ▸ hwritten, ?_⟩
        rw [hvalue]
        intro parsed settings hparsed hsettings
        have htype' := mfDesfireAdditionalRightsParse_type hlt hcap hparsed hsettings
        rw [hrights parsed settings hparsed hsettings, htype']
        exact hsent.symm
    · rw [if_neg hflag] at hvalue hinside
      have hpure : (pure ⟨some (mfDesfireHeaderSettings buf type contents), [0]⟩ :
          Reads MfDesfireParsed).Inside buf.getSizeBytes := inside_pure _
      constructor
      · intro h
        exact ⟨(hinside.mp h.inside).1, fun h => absurd h hflag⟩
      · rintro ⟨hle, -⟩
        refine ⟨hinside.mpr ⟨hle, hpure⟩, ?_, ?_⟩
        · rw [hvalue]
          rintro parsed hparsed i hi
          obtain rfl := Option.some.inj hparsed
          obtain rfl := List.mem_singleton.mp hi
          decide
        · rw [hvalue]
          rintro parsed settings hparsed hsettings
          obtain rfl := Option.some.inj hparsed
          obtain rfl := Option.some.inj hsettings
          show _ = mfDesfireAccessRightsSent buf type
          rw [mfDesfireAccessRightsSent, if_neg hflag]
          rfl

/-- The answer of a card for a standard file with two words of access rights. -/
def desfireTwoRights : BitBuffer :=
  .ofBytes [0x00, 0x80, 0x34, 0x12, 0x20, 0x00, 0x00, 0x01, 0xCD, 0xAB]

theorem desfireTwoRights_iff :
    MfDesfireParses desfireTwoRights ↔ MfDesfireAnswerFits desfireTwoRights :=
  mfDesfireFileSettingsParse_iff desfireTwoRights (by decide)

/-- The second word is put together from the count and its own first byte. -/
theorem desfireTwoRights_wrong :
    ¬∀ buf : BitBuffer, buf.getSizeBytes ≤ buf.capacityBytes → MfDesfireParses buf := by
  intro h
  have hvalue : ((mfDesfireFileSettingsParse desfireTwoRights).value.bind (·.settings)).map
      (fun settings => (settings.rights, settings.type)) = some ([0x1234, 0xCD01], .standard) := by
    decide +kernel
  have hsent : mfDesfireAccessRightsSent desfireTwoRights .standard = [0x1234, 0xABCD] := by
    decide +kernel
  obtain ⟨settings, hsettings, hpair⟩ := Option.map_eq_some_iff.mp hvalue
  obtain ⟨parsed, hparsed, hsome⟩ := Option.bind_eq_some_iff.mp hsettings
  have hrights := (h desfireTwoRights (by decide)).rights parsed settings hparsed hsome
  obtain ⟨hgot, htype⟩ := Prod.mk.inj hpair
  rw [htype, hsent, hgot] at hrights
  exact absurd hrights (by decide)

end FlipperZero
