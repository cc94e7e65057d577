import FlipperZero.Nfc.MfDesfireFileSettings
import FlipperZero.Toolbox.HeapArray

/-!
# Comparing cards

`iso15693_3_is_equal` and `mf_desfire_is_equal` rest on the comparison of arrays. The first one has
arrays of bytes only. The second one has identifiers of three bytes, and applications that own
further arrays.
-/

namespace FlipperZero

/-- The bytes of a field, the lowest first. -/
def fieldBytes {w : Nat} (n : Nat) (field : BitVec w) : List (BitVec 8) :=
  (List.range n).map fun i => field.extractLsb' (8 * i) 8

/-! ### ISO15693-3 -/

/-- `Iso15693_3SystemInfo` and `Iso15693_3Settings`. The padding behind the fields is zero. -/
structure Iso15693_3Info where
  flags : BitVec 8
  dsfid : BitVec 8
  afi : BitVec 8
  icRef : BitVec 8
  blockCount : BitVec 16
  blockSize : BitVec 8
  lockDsfid : Bool
  lockAfi : Bool
  deriving DecidableEq

/-- `Iso15693_3Data` on the heap. -/
structure HeapIso15693_3Data where
  uid : BitVec 64
  info : Iso15693_3Info
  blockData : HeapArray (BitVec 8)
  blockSecurity : HeapArray (BitVec 8)

/-- What is stored of a card. -/
structure Iso15693_3Contents where
  uid : BitVec 64
  info : Iso15693_3Info
  blockData : List (BitVec 8)
  blockSecurity : List (BitVec 8)

namespace HeapIso15693_3Data

variable (d e : HeapIso15693_3Data)

/-- The card without its addresses. -/
def contents : Iso15693_3Contents where
  uid := d.uid
  info := d.info
  blockData := d.blockData.elements
  blockSecurity := d.blockSecurity.elements

/-- The arrays of two cards lie in one heap. -/
def SameHeap : Prop :=
  d.blockData.SameHeap e.blockData ∧ d.blockSecurity.SameHeap e.blockSecurity

end HeapIso15693_3Data

def iso15693_3IsEqual (d e : HeapIso15693_3Data) : Bool :=
  d.uid == e.uid && d.info == e.info &&
    simpleArrayIsEqual simpleArrayConfigUint8 d.blockData e.blockData &&
    simpleArrayIsEqual simpleArrayConfigUint8 d.blockSecurity e.blockSecurity

def iso15693_3Copy {σ : Type} (malloc : StateM σ Address) (data other : HeapIso15693_3Data) :
    StateM σ HeapIso15693_3Data := do
  let blockData ← simpleArrayCopy malloc pure data.blockData other.blockData
  let blockSecurity ← simpleArrayCopy malloc pure data.blockSecurity other.blockSecurity
  pure { other with blockData, blockSecurity }

/-! ### DESFire -/

structure Iso14443_3aData where
  uid : BitVec 80
  uidLen : BitVec 8
  atqa : BitVec 16
  sak : BitVec 8
  deriving DecidableEq

/-- `Iso14443_4aAtsData` before the historical bytes. -/
structure Iso14443_4aAts where
  tl : BitVec 8
  t0 : BitVec 8
  ta1 : BitVec 8
  tb1 : BitVec 8
  tc1 : BitVec 8

structure Iso14443_4aData where
  iso14443_3aData : Iso14443_3aData
  ats : Iso14443_4aAts
  t1Tk : HeapArray (BitVec 8)

/-- `MfDesfireFreeMemory`. The padding behind the fields is zero. -/
structure MfDesfireFreeMemory where
  bytesFree : BitVec 32
  isPresent : Bool
  deriving DecidableEq

structure MfDesfireKeySettings where
  isMasterKeyChangeable : Bool
  isFreeDirectoryList : Bool
  isFreeCreateDelete : Bool
  isConfigChangeable : Bool
  changeKeyId : BitVec 8
  maxKeys : BitVec 8
  flags : BitVec 8
  deriving DecidableEq

/-- A `bool` in memory. -/
def boolByte (b : Bool) : BitVec 8 := if b then 1 else 0

def MfDesfireKeySettings.bytes (settings : MfDesfireKeySettings) : List (BitVec 8) :=
  [boolByte settings.isMasterKeyChangeable, boolByte settings.isFreeDirectoryList,
    boolByte settings.isFreeCreateDelete, boolByte settings.isConfigChangeable,
    settings.changeKeyId, settings.maxKeys, settings.flags]

structure MfDesfireFileData where
  data : HeapArray (BitVec 8)

structure MfDesfireApplication where
  keySettings : MfDesfireKeySettings
  keyVersions : HeapArray (BitVec 8)
  fileIds : HeapArray (BitVec 8)
  fileSettings : HeapArray MfDesfireFileSettings
  fileData : HeapArray MfDesfireFileData

/-- What is stored of an application. -/
structure MfDesfireApplicationContents where
  keySettings : MfDesfireKeySettings
  keyVersions : List (BitVec 8)
  fileIds : List (BitVec 8)
  fileSettings : List MfDesfireFileSettings
  fileData : List (List (BitVec 8))

namespace MfDesfireApplication

variable (app : MfDesfireApplication)

/-- The application without its addresses. -/
def contents : MfDesfireApplicationContents where
  keySettings := app.keySettings
  keyVersions := app.keyVersions.elements
  fileIds := app.fileIds.elements
  fileSettings := app.fileSettings.elements
  fileData := app.fileData.elements.map (·.data.elements)

/-- The application in memory: behind the key settings and a byte of padding, four addresses. -/
def bytes : List (BitVec 8) :=
  app.keySettings.bytes ++ 0 :: (fieldBytes 4 app.keyVersions.address ++
    fieldBytes 4 app.fileIds.address ++ fieldBytes 4 app.fileSettings.address ++
    fieldBytes 4 app.fileData.address)

end MfDesfireApplication

def mfDesfireAppIdArrayConfig : SimpleArrayConfig (BitVec 24) where
  typeSize := 3
  typeSize_pos := by decide
  bytes := fieldBytes 3
  length_bytes _ := rfl

def mfDesfireApplicationArrayConfig : SimpleArrayConfig MfDesfireApplication where
  typeSize := 24
  typeSize_pos := by decide
  bytes := MfDesfireApplication.bytes
  length_bytes _ := rfl

structure MfDesfireData where
  iso14443_4aData : Iso14443_4aData
  version : BitVec 224
  freeMemory : MfDesfireFreeMemory
  masterKeySettings : MfDesfireKeySettings
  masterKeyVersions : HeapArray (BitVec 8)
  applicationIds : HeapArray (BitVec 24)
  applications : HeapArray MfDesfireApplication

/-- What is stored of a card. -/
structure MfDesfireContents where
  iso14443_3aData : Iso14443_3aData
  ats : Iso14443_4aAts
  t1Tk : List (BitVec 8)
  version : BitVec 224
  freeMemory : MfDesfireFreeMemory
  masterKeySettings : MfDesfireKeySettings
  masterKeyVersions : List (BitVec 8)
  applicationIds : List (BitVec 24)
  applications : List MfDesfireApplicationContents

def iso14443_4aIsEqual (d e : Iso14443_4aData) : Bool := d.iso14443_3aData == e.iso14443_3aData

def mfDesfireIsEqual (d e : MfDesfireData) : Bool :=
  iso14443_4aIsEqual d.iso14443_4aData e.iso14443_4aData && d.version == e.version &&
    d.freeMemory == e.freeMemory && d.masterKeySettings == e.masterKeySettings &&
    simpleArrayIsEqual simpleArrayConfigUint8 d.masterKeyVersions e.masterKeyVersions &&
    simpleArrayIsEqual mfDesfireAppIdArrayConfig d.applicationIds e.applicationIds &&
    simpleArrayIsEqual mfDesfireApplicationArrayConfig d.applications e.applications

section Copy

variable {σ : Type} (malloc : StateM σ Address)

def iso14443_4aCopy (data other : Iso14443_4aData) : StateM σ Iso14443_4aData := do
  let t1Tk ← simpleArrayCopy malloc pure data.t1Tk other.t1Tk
  pure { other with t1Tk }

/-- An element that is made by `mf_desfire_file_data_init` and `mf_desfire_file_data_copy`. -/
def mfDesfireFileDataCopy (other : MfDesfireFileData) : StateM σ MfDesfireFileData := do
  let data ← simpleArrayAlloc malloc
  let data ← simpleArrayCopy malloc pure data other.data
  pure { data }

/-- An element that is made by `mf_desfire_application_init` and `mf_desfire_application_copy`. -/
def mfDesfireApplicationCopy (other : MfDesfireApplication) : StateM σ MfDesfireApplication := do
  let keyVersions ← simpleArrayAlloc malloc
  let fileIds ← simpleArrayAlloc malloc
  let fileSettings ← simpleArrayAlloc malloc
  let fileData ← simpleArrayAlloc malloc
  let keyVersions ← simpleArrayCopy malloc pure keyVersions other.keyVersions
  let fileIds ← simpleArrayCopy malloc pure fileIds other.fileIds
  let fileSettings ← simpleArrayCopy malloc pure fileSettings other.fileSettings
  let fileData ← simpleArrayCopy malloc (mfDesfireFileDataCopy malloc) fileData other.fileData
  pure { keySettings := other.keySettings, keyVersions, fileIds, fileSettings, fileData }

/-- `mf_desfire_copy`. -/
def mfDesfireDataCopy (data other : MfDesfireData) : StateM σ MfDesfireData := do
  let iso14443_4aData ← iso14443_4aCopy malloc data.iso14443_4aData other.iso14443_4aData
  let masterKeyVersions ←
    simpleArrayCopy malloc pure data.masterKeyVersions other.masterKeyVersions
  let applicationIds ← simpleArrayCopy malloc pure data.applicationIds other.applicationIds
  let applications ← simpleArrayCopy malloc (mfDesfireApplicationCopy malloc) data.applications
    other.applications
  pure { other with iso14443_4aData, masterKeyVersions, applicationIds, applications }

end Copy

namespace MfDesfireData

variable (d e : MfDesfireData)

/-- The card without its addresses. -/
def contents : MfDesfireContents where
  iso14443_3aData := d.iso14443_4aData.iso14443_3aData
  ats := d.iso14443_4aData.ats
  t1Tk := d.iso14443_4aData.t1Tk.elements
  version := d.version
  freeMemory := d.freeMemory
  masterKeySettings := d.masterKeySettings
  masterKeyVersions := d.masterKeyVersions.elements
  applicationIds := d.applicationIds.elements
  applications := d.applications.elements.map (·.contents)

/-- The arrays of two cards that are compared lie in one heap. -/
def SameHeap : Prop :=
  d.masterKeyVersions.SameHeap e.masterKeyVersions ∧ d.applicationIds.SameHeap e.applicationIds ∧
    d.applications.SameHeap e.applications

/-- Everything is equal but what belongs to the answer to select and to the applications. -/
def SameHead : Prop :=
  d.iso14443_4aData.iso14443_3aData = e.iso14443_4aData.iso14443_3aData ∧ d.version = e.version ∧
    d.freeMemory = e.freeMemory ∧ d.masterKeySettings = e.masterKeySettings ∧
    d.masterKeyVersions.elements = e.masterKeyVersions.elements

/-- Equal cards have at most eight applications, or the same addresses where these are compared. In
different cards a difference is found: outside of the answer to select, which is not compared, and
in front of the identifiers or of the applications when it is in these. -/
def DiffersInFront : Prop :=
  (d.contents = e.contents → d.applications.count ≤ 8 ∨
    d.applications.SameFront e.applications mfDesfireApplicationArrayConfig) ∧
  (d.contents ≠ e.contents → ¬ d.SameHead e ∨
    ¬ d.applicationIds.SameFront e.applicationIds mfDesfireAppIdArrayConfig ∨
    ¬ d.applications.SameFront e.applications mfDesfireApplicationArrayConfig)

end MfDesfireData

/-! ### Copies -/

section Copied

variable {σ : Type} (malloc : StateM σ Address)

lemma iso15693_3Copy_contents (data other : HeapIso15693_3Data) (t : σ) :
    (iso15693_3Copy malloc data other t).1.contents = other.contents :=
  congrArg₂ (Iso15693_3Contents.mk other.uid other.info) (simpleArrayCopy_pure _ _ _)
    (simpleArrayCopy_pure _ _ _)

lemma mfDesfireFileDataCopy_view (other : MfDesfireFileData) (t : σ) :
    (mfDesfireFileDataCopy malloc other t).1.data.elements = other.data.elements :=
  simpleArrayCopy_pure _ _ _

lemma mfDesfireApplicationCopy_contents (other : MfDesfireApplication) (t : σ) :
    (mfDesfireApplicationCopy malloc other t).1.contents = other.contents := by
  rw [MfDesfireApplication.contents, MfDesfireApplication.contents,
    MfDesfireApplicationContents.mk.injEq]
  exact ⟨rfl, simpleArrayCopy_pure _ _ _, simpleArrayCopy_pure _ _ _, simpleArrayCopy_pure _ _ _,
    simpleArrayCopy_view (mfDesfireFileDataCopy_view malloc) _ _ _⟩

lemma mfDesfireDataCopy_contents (data other : MfDesfireData) (t : σ) :
    (mfDesfireDataCopy malloc data other t).1.contents = other.contents := by
  rw [MfDesfireData.contents, MfDesfireData.contents, MfDesfireContents.mk.injEq]
  exact ⟨rfl, rfl, simpleArrayCopy_pure _ _ _, rfl, rfl, rfl, simpleArrayCopy_pure _ _ _,
    simpleArrayCopy_pure _ _ _,
    simpleArrayCopy_view (mfDesfireApplicationCopy_contents malloc) _ _ _⟩

end Copied

/-! ### Comparisons -/

/-- Two cards with arrays of bytes only are compared rightly. -/
lemma iso15693_3IsEqual_iff {d e : HeapIso15693_3Data} (h : d.SameHeap e) :
    iso15693_3IsEqual d e = true ↔ d.contents = e.contents := by
  rw [iso15693_3IsEqual, HeapIso15693_3Data.contents, HeapIso15693_3Data.contents,
    Iso15693_3Contents.mk.injEq]
  simp only [Bool.and_eq_true, beq_iff_eq, simpleArrayIsEqual_uint8 h.1,
    simpleArrayIsEqual_uint8 h.2, and_assoc]

lemma mfDesfireIsEqual_iff {d e : MfDesfireData} (h : d.SameHeap e) :
    mfDesfireIsEqual d e = true ↔ d.SameHead e ∧
      d.applicationIds.SameFront e.applicationIds mfDesfireAppIdArrayConfig ∧
      d.applications.SameFront e.applications mfDesfireApplicationArrayConfig := by
  obtain ⟨hkeys, hids, happs⟩ := h
  rw [mfDesfireIsEqual, iso14443_4aIsEqual, MfDesfireData.SameHead]
  simp only [Bool.and_eq_true, beq_iff_eq, simpleArrayIsEqual_uint8 hkeys,
    simpleArrayIsEqual_iff hids, simpleArrayIsEqual_iff happs, HeapArray.agree_iff, and_assoc]

lemma MfDesfireData.sameHead_of_contents {d e : MfDesfireData} (h : d.contents = e.contents) :
    d.SameHead e ∧ d.applicationIds.elements = e.applicationIds.elements ∧
      d.applications.elements.map (·.contents) = e.applications.elements.map (·.contents) := by
  rw [contents, contents, MfDesfireContents.mk.injEq] at h
  obtain ⟨hbase, -, -, hversion, hmemory, hsettings, hkeys, hids, happs⟩ := h
  exact ⟨⟨hbase, hversion, hmemory, hsettings, hkeys⟩, hids, happs⟩

/-- Up to eight applications only the key settings of the first one are in front: behind their seven
bytes there is a byte of padding. -/
lemma sameFront_applications_iff {a b : HeapArray MfDesfireApplication} (h : a.count ≤ 8) :
    a.SameFront b mfDesfireApplicationArrayConfig ↔ a.count = b.count ∧
      (a.elements[0]?.map fun app => app.keySettings.bytes.take a.count) =
        b.elements[0]?.map fun app => app.keySettings.bytes.take a.count := by
  have hlt : a.count < 24 := Nat.lt_of_le_of_lt h (by decide)
  have htake (app : MfDesfireApplication) : app.bytes.take a.count =
      app.keySettings.bytes.take a.count ++ [0].take (a.count - 7) := by
    have hlen : app.keySettings.bytes.length = 7 := rfl
    have hone : a.count - 7 ≤ [(0 : BitVec 8)].length := by
      rw [List.length_singleton]
      omega
    rw [MfDesfireApplication.bytes, List.take_append, hlen, ← List.singleton_append,
      List.take_append_of_le_length hone]
  have hfront (x y : Option MfDesfireApplication) :
      ((x.map fun app => app.bytes.take a.count) = y.map fun app => app.bytes.take a.count) ↔
        (x.map fun app => app.keySettings.bytes.take a.count) =
          y.map fun app => app.keySettings.bytes.take a.count := by
    cases x <;> cases y <;> simp [htake]
  have hwhole {c : HeapArray MfDesfireApplication} (hc : a.count = c.count) :
      c.wholeElements mfDesfireApplicationArrayConfig = 0 ∧
        c.partialBytes mfDesfireApplicationArrayConfig = a.count := by
    rw [HeapArray.wholeElements, HeapArray.partialBytes, ← hc]
    exact ⟨Nat.div_eq_of_lt hlt, Nat.mod_eq_of_lt hlt⟩
  constructor
  · rintro ⟨hcount, -, hnext⟩
    rw [(hwhole rfl).1, (hwhole rfl).2, (hwhole hcount).1, (hwhole hcount).2] at hnext
    exact ⟨hcount, (hfront _ _).mp hnext⟩
  · rintro ⟨hcount, hnext⟩
    refine ⟨hcount, ?_, ?_⟩
    · rw [(hwhole rfl).1, (hwhole hcount).1, List.take_zero, List.take_zero]
    · rw [(hwhole rfl).1, (hwhole rfl).2, (hwhole hcount).1, (hwhole hcount).2]
      exact (hfront _ _).mpr hnext

lemma sameFront_applications_of_contents {a b : HeapArray MfDesfireApplication} (h : a.count ≤ 8)
    (heq : a.elements.map (·.contents) = b.elements.map (·.contents)) :
    a.SameFront b mfDesfireApplicationArrayConfig := by
  refine (sameFront_applications_iff h).mpr ⟨?_, ?_⟩
  · have hlen := congrArg List.length heq
    rwa [List.length_map, List.length_map] at hlen
  · have hfirst := congrArg (fun l : List MfDesfireApplicationContents =>
      l[0]?.map fun app => app.keySettings.bytes.take a.count) heq
    rwa [List.getElem?_map, List.getElem?_map, Option.map_map, Option.map_map] at hfirst

/-- Two DESFire cards are compared rightly exactly when a difference is found, and nothing else
is. -/
lemma mfDesfireIsEqual_exact {d e : MfDesfireData} (h : d.SameHeap e) :
    (mfDesfireIsEqual d e = true ↔ d.contents = e.contents) ↔ d.DiffersInFront e := by
  rw [mfDesfireIsEqual_iff h]
  constructor
  · intro hiff
    refine ⟨fun heq => .inr (hiff.mpr heq).2.2, fun hne => ?_⟩
    by_contra hfound
    simp only [not_or, not_not] at hfound
    exact hne (hiff.mp hfound)
  · rintro ⟨hequal, hdiffer⟩
    constructor
    · rintro ⟨hhead, hids, happs⟩
      by_contra hne
      rcases hdiffer hne with hother | hother | hother
      · exact hother hhead
      · exact hother hids
      · exact hother happs
    · intro heq
      obtain ⟨hhead, hids, happs⟩ := MfDesfireData.sameHead_of_contents heq
      refine ⟨hhead, HeapArray.agree_iff.mp (.of_elements hids), ?_⟩
      rcases hequal heq with hcount | hfront
      · exact sameFront_applications_of_contents hcount happs
      · exact hfront

/-- The comparison of arrays is right exactly when a difference is in front, and nothing else is:
for elements of one byte it always is. So is the one of DESFire cards, and the one of ISO15693-3
cards is always right. A copy holds what it is copied from. -/
theorem simpleArrayIsEqual_exact_cards {α β : Type} (config : SimpleArrayConfig α) (view : α → β)
    (a b : HeapArray α) (h : a.SameHeap b) :
    ((simpleArrayIsEqual config a b = true ↔ a.elements.map view = b.elements.map view) ↔
      a.DiffersInFront b config view) ∧
    (config.typeSize = 1 → Function.Injective config.bytes →
      (simpleArrayIsEqual config a b = true ↔ a.elements = b.elements)) ∧
    (∀ d e : HeapIso15693_3Data, d.SameHeap e →
      (iso15693_3IsEqual d e = true ↔ d.contents = e.contents)) ∧
    (∀ d e : MfDesfireData, d.SameHeap e →
      ((mfDesfireIsEqual d e = true ↔ d.contents = e.contents) ↔ d.DiffersInFront e)) ∧
    ∀ {σ : Type} (malloc : StateM σ Address) (t : σ),
      (∀ data other, (iso15693_3Copy malloc data other t).1.contents = other.contents) ∧
        ∀ data other, (mfDesfireDataCopy malloc data other t).1.contents = other.contents :=
  ⟨simpleArrayIsEqual_exact h view, simpleArrayIsEqual_oneByte h,
    fun _ _ h => iso15693_3IsEqual_iff h, fun _ _ h => mfDesfireIsEqual_exact h, fun malloc t =>
      ⟨fun _ _ => iso15693_3Copy_contents malloc _ _ t,
        fun _ _ => mfDesfireDataCopy_contents malloc _ _ t⟩⟩

/-! ### Two cards with one application -/

def oneApplicationCard (id : BitVec 24) (first : Address) : MfDesfireData where
  iso14443_4aData :=
    { iso14443_3aData := ⟨0x04, 7, 0x0344, 0x20⟩, ats := ⟨6, 0x75, 0x77, 0x81, 2⟩
      t1Tk := ⟨first, some (first + 1, 0x80, [])⟩ }
  version := 0
  freeMemory := ⟨0, false⟩
  masterKeySettings := ⟨true, true, true, true, 0, 1, 0⟩
  masterKeyVersions := ⟨first + 2, some (first + 3, 0, [])⟩
  applicationIds := ⟨first + 4, some (first + 5, id, [])⟩
  applications := ⟨first + 8, some (first + 9,
    { keySettings := ⟨true, true, true, true, 0, 1, 0⟩
      keyVersions := ⟨first + 33, some (first + 34, 0, [])⟩
      fileIds := ⟨first + 35, none⟩
      fileSettings := ⟨first + 36, none⟩
      fileData := ⟨first + 37, none⟩ }, [])⟩

lemma oneApplicationCard_sameHeap :
    (oneApplicationCard 0x030201 0x20000000).SameHeap (oneApplicationCard 0x040201 0x20000100) := by
  refine ⟨⟨fun h => ?_, fun _ h => ?_⟩, ⟨fun h => ?_, fun _ h => ?_⟩, fun h => ?_, fun _ h => ?_⟩
  all_goals exact absurd h (by decide)

/-- The identifiers of the two cards, and the cards. -/
theorem simpleArrayIsEqual_exact_cards_one :
    ((simpleArrayIsEqual mfDesfireAppIdArrayConfig
          (oneApplicationCard 0x030201 0x20000000).applicationIds
          (oneApplicationCard 0x040201 0x20000100).applicationIds = true ↔
        (oneApplicationCard 0x030201 0x20000000).applicationIds.elements.map id =
          (oneApplicationCard 0x040201 0x20000100).applicationIds.elements.map id) ↔
      (oneApplicationCard 0x030201 0x20000000).applicationIds.DiffersInFront
        (oneApplicationCard 0x040201 0x20000100).applicationIds mfDesfireAppIdArrayConfig id) ∧
    ((mfDesfireIsEqual (oneApplicationCard 0x030201 0x20000000)
          (oneApplicationCard 0x040201 0x20000100) = true ↔
        (oneApplicationCard 0x030201 0x20000000).contents =
          (oneApplicationCard 0x040201 0x20000100).contents) ↔
      (oneApplicationCard 0x030201 0x20000000).DiffersInFront
        (oneApplicationCard 0x040201 0x20000100)) := by
  have hboth := simpleArrayIsEqual_exact_cards mfDesfireAppIdArrayConfig id
    (oneApplicationCard 0x030201 0x20000000).applicationIds
    (oneApplicationCard 0x040201 0x20000100).applicationIds oneApplicationCard_sameHeap.2.1
  exact ⟨hboth.1, hboth.2.2.2.1 _ _ oneApplicationCard_sameHeap⟩

/-- Two cards whose applications have other identifiers count as the same. -/
theorem not_mfDesfireIsEqual_exact :
    ¬∀ d e : MfDesfireData, d.SameHeap e →
      (mfDesfireIsEqual d e = true ↔ d.contents = e.contents) := by
  intro h
  have hequal := (h _ _ oneApplicationCard_sameHeap).mp (by decide +kernel)
  exact absurd (congrArg MfDesfireContents.applicationIds hequal) (by decide)

end FlipperZero
