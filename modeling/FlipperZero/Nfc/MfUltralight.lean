import FlipperZero.Foundation.Memory

/-!
# MIFARE Ultralight and NTAG data

The types of the tags with their table of features, and the data of a tag. The pages are one
memory, four bytes a page; the configuration, the locks and the capability container are words
of it, as the pointers of the source are.
-/

namespace FlipperZero

open Foundation

/-! ### Features -/

inductive MfUltralightType where
  | origin
  | ntag203
  | mfulC
  | ul11
  | ul21
  | ntag213
  | ntag215
  | ntag216
  | ntagI2C1K
  | ntagI2C2K
  | ntagI2CPlus1K
  | ntagI2CPlus2K
  deriving DecidableEq, Repr

/-- `MfUltralightFeatureSupport`, a set of flags. -/
abbrev MfUltralightFeatureSupport := BitVec 32

namespace MfUltralightFeatureSupport

def readVersion : MfUltralightFeatureSupport := 1#32 <<< 0
def readSignature : MfUltralightFeatureSupport := 1#32 <<< 1
def readCounter : MfUltralightFeatureSupport := 1#32 <<< 2
def checkTearingFlag : MfUltralightFeatureSupport := 1#32 <<< 3
def fastRead : MfUltralightFeatureSupport := 1#32 <<< 4
def incCounter : MfUltralightFeatureSupport := 1#32 <<< 5
def fastWrite : MfUltralightFeatureSupport := 1#32 <<< 6
def compatibleWrite : MfUltralightFeatureSupport := 1#32 <<< 7
def passwordAuth : MfUltralightFeatureSupport := 1#32 <<< 8
def vcsl : MfUltralightFeatureSupport := 1#32 <<< 9
def sectorSelect : MfUltralightFeatureSupport := 1#32 <<< 10
def singleCounter : MfUltralightFeatureSupport := 1#32 <<< 11
def asciiMirror : MfUltralightFeatureSupport := 1#32 <<< 12
def counterInMemory : MfUltralightFeatureSupport := 1#32 <<< 13
def dynamicLock : MfUltralightFeatureSupport := 1#32 <<< 14
def authenticate : MfUltralightFeatureSupport := 1#32 <<< 15

end MfUltralightFeatureSupport

def mfUltralightSupportFeature (featureSet featuresToCheck : MfUltralightFeatureSupport) : Bool :=
  featureSet &&& featuresToCheck != 0

/-- `MfUltralightFeatures`, without the name. -/
structure MfUltralightFeatures where
  totalPages : Nat
  configPage : Nat
  featureSet : MfUltralightFeatureSupport

open MfUltralightFeatureSupport in
/-- The features of UL11, which UL21 extends. -/
def mfUltralightFeaturesUl11 : MfUltralightFeatureSupport :=
  readVersion ||| readSignature ||| readCounter ||| checkTearingFlag ||| fastRead ||| incCounter |||
    compatibleWrite ||| passwordAuth ||| MfUltralightFeatureSupport.vcsl

open MfUltralightFeatureSupport in
def mfUltralightFeaturesNtag21x : MfUltralightFeatureSupport :=
  readVersion ||| readSignature ||| readCounter ||| fastRead ||| compatibleWrite ||| passwordAuth |||
    singleCounter ||| asciiMirror ||| dynamicLock

open MfUltralightFeatureSupport in
def mfUltralightFeaturesNtagI2C : MfUltralightFeatureSupport :=
  readVersion ||| fastRead ||| sectorSelect ||| dynamicLock

open MfUltralightFeatureSupport in
def mfUltralightFeaturesNtagI2CPlus : MfUltralightFeatureSupport :=
  readVersion ||| readSignature ||| fastRead ||| passwordAuth ||| sectorSelect ||| fastWrite |||
    dynamicLock

open MfUltralightFeatureSupport in
/-- The table `mf_ultralight_features`. -/
def mfUltralightFeatures : MfUltralightType → MfUltralightFeatures
  | .origin        => ⟨16, 0, compatibleWrite⟩
  | .mfulC         => ⟨48, 0, compatibleWrite ||| authenticate⟩
  | .ntag203       => ⟨42, 0, compatibleWrite ||| counterInMemory⟩
  | .ul11          => ⟨20, 16, mfUltralightFeaturesUl11⟩
  | .ul21          => ⟨41, 37, mfUltralightFeaturesUl11 ||| dynamicLock⟩
  | .ntag213       => ⟨45, 41, mfUltralightFeaturesNtag21x⟩
  | .ntag215       => ⟨135, 131, mfUltralightFeaturesNtag21x⟩
  | .ntag216       => ⟨231, 227, mfUltralightFeaturesNtag21x⟩
  | .ntagI2C1K     => ⟨231, 0, mfUltralightFeaturesNtagI2C⟩
  | .ntagI2C2K     => ⟨485, 0, mfUltralightFeaturesNtagI2C⟩
  | .ntagI2CPlus1K => ⟨236, 227, mfUltralightFeaturesNtagI2CPlus⟩
  | .ntagI2CPlus2K => ⟨492, 227, mfUltralightFeaturesNtagI2CPlus⟩

def mfUltralightGetFeatureSupportSet (type : MfUltralightType) : MfUltralightFeatureSupport :=
  (mfUltralightFeatures type).featureSet

def mfUltralightGetConfigPageNum (type : MfUltralightType) : Nat :=
  (mfUltralightFeatures type).configPage

def mfUltralightGetPwdPageNum (type : MfUltralightType) : Nat :=
  let configPage := mfUltralightGetConfigPageNum type
  if configPage ≠ 0 then configPage + 2 else 0

def mfUltralightIsPagePwdOrPack (type : MfUltralightType) (page : Nat) : Bool :=
  let pwdPage := mfUltralightGetPwdPageNum type
  let packPage := pwdPage + 1
  pwdPage ≠ 0 && (page == pwdPage || page == packPage)

def mfUltralightIsI2CTag (type : MfUltralightType) : Bool :=
  type = .ntagI2C1K || type = .ntagI2C2K || type = .ntagI2CPlus1K || type = .ntagI2CPlus2K

/-! ### Data -/

inductive MfUltralightMirrorConf where
  | none
  | uid
  | counter
  | uidCounter
  deriving DecidableEq, Repr

/-- `MfUltralightData`. The length of `uid` is `uid_len` of the base data. -/
structure MfUltralightData where
  uid : List (BitVec 8)
  type : MfUltralightType
  version : List (BitVec 8)
  signature : List (BitVec 8)
  counter : Nat → BitVec 32
  tearingFlag : Nat → BitVec 8
  /-- The bytes of the pages. -/
  page : Memory
  pagesRead : Nat
  pagesTotal : Nat
  authAttempts : BitVec 32

def MfUltralightData.pageBytes (data : MfUltralightData) (page : Nat) : Memory :=
  fun i => data.page (4 * page + i)

/-- A byte of `MfUltralightConfigPages`. -/
def MfUltralightData.config (data : MfUltralightData) (i : Nat) : BitVec 8 :=
  data.page (4 * mfUltralightGetConfigPageNum data.type + i)

namespace MfUltralightData

variable (data : MfUltralightData)

/-- `mirror.mirror_byte` of the configuration. -/
def mirrorByte : Nat := (data.config 0).toNat / 16 % 4

/-- `mirror.mirror_conf` of the configuration. -/
def mirrorConf : MfUltralightMirrorConf :=
  match (data.config 0).toNat / 64 with
  | 0 => .none
  | 1 => .uid
  | 2 => .counter
  | _ => .uidCounter

/-- `mirror_page` of the configuration. -/
def mirrorPage : Nat := (data.config 2).toNat

/-- `auth0` of the configuration. -/
def auth0 : Nat := (data.config 3).toNat

/-- `access.authlim` of the configuration. -/
def authlim : Nat := (data.config 4).toNat % 8

/-- `access.nfc_cnt_pwd_prot` of the configuration. -/
def nfcCntPwdProt : Bool := (data.config 4).getLsbD 3

/-- `access.nfc_cnt_en` of the configuration. -/
def nfcCntEn : Bool := (data.config 4).getLsbD 4

/-- `access.cfglck` of the configuration. -/
def cfglck : Bool := (data.config 4).getLsbD 6

/-- `access.prot` of the configuration. -/
def prot : Bool := (data.config 4).getLsbD 7

/-- `vctid` of the configuration. -/
def vctid : BitVec 8 := data.config 5

/-- `password` of the configuration. -/
def password : List (BitVec 8) := (List.range 4).map fun i => data.config (8 + i)

/-- `pack` of the configuration. -/
def pack : List (BitVec 8) := (List.range 2).map fun i => data.config (12 + i)

/-- `mf_ultralight_3des_key_valid`. -/
def tripleDesKeyValid : Bool := (data.pagesRead : Int) ≠ data.pagesTotal - 4

/-- `mf_ultralight_3des_get_key`, behind its check of the type. -/
def tripleDesGetKey : List (BitVec 8) := (List.range 16).map (data.pageBytes 44)

end MfUltralightData

def mfUltralight3DesShiftData (data : List (BitVec 8)) : List (BitVec 8) := data.rotateLeft 1

end FlipperZero
