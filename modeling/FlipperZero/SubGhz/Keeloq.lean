import FlipperZero.SubGhz.BlockMath
import FlipperZero.SubGhz.KeeloqCommon

/-!
# KeeLoq transmissions

`subghz_protocol_keeloq_gen_data` steps the counter and builds the next transmission: the button
and the serial number in the clear, and a word encrypted as the manufacturer of the keystore wants
it. The transmission is kept with its bits reversed, and it is kept only when the encrypted word is
not zero.
-/

namespace FlipperZero

open Foundation

/-! ### Data -/

inductive ProgMode where
  | off
  | keeloqBft
  | keeloqAprimatic
  | keeloqDeaMio
  deriving DecidableEq

structure SubGhzKey where
  name : String
  key : BitVec 64
  type : BitVec 16
  deriving DecidableEq

/-- `SubGhzKeystore`, without the name that decoding looks for. -/
structure SubGhzKeystore where
  data : List SubGhzKey
  klType : BitVec 8

/-- `SubGhzBlockGeneric`, as far as KeeLoq uses it. -/
structure SubGhzBlockGeneric where
  data : BitVec 64
  serial : BitVec 32
  dataCountBit : BitVec 16
  cnt : BitVec 32
  seed : BitVec 32

/-- `SubGhzProtocolEncoderKeeloq`, without the pulses and the text buffers. -/
structure SubGhzProtocolEncoderKeeloq where
  generic : SubGhzBlockGeneric
  keystore : SubGhzKeystore
  manufactureName : Option String

/-! ### Learning -/

def subghzProtocolKeeloqCommonNormalLearning (data : BitVec 32) (key : BitVec 64) : BitVec 64 :=
  let k1 := subghzProtocolKeeloqCommonDecrypt (data &&& 0x0FFFFFFF ||| 0x20000000) key
  let k2 := subghzProtocolKeeloqCommonDecrypt (data &&& 0x0FFFFFFF ||| 0x60000000) key
  joinWords k2 k1

def subghzProtocolKeeloqCommonSecureLearning (data seed : BitVec 32) (key : BitVec 64) : BitVec 64 :=
  let k1 := subghzProtocolKeeloqCommonDecrypt (data &&& 0x0FFFFFFF) key
  let k2 := subghzProtocolKeeloqCommonDecrypt seed key
  joinWords k1 k2

def subghzProtocolKeeloqCommonMagicXorType1Learning (data : BitVec 32) (key : BitVec 64) :
    BitVec 64 :=
  joinWords (data &&& 0x0FFFFFFF) (data &&& 0x0FFFFFFF) ^^^ key

def subghzProtocolKeeloqCommonMagicSerialType1Learning (data : BitVec 32) (man : BitVec 64) :
    BitVec 64 :=
  (man &&& 0xFFFFFFFF) ||| data.setWidth 64 <<< 40 |||
    (((data &&& 0xff) + ((data >>> 8) &&& 0xFF)) &&& 0xFF).setWidth 64 <<< 32

/-- The encrypted word for a key of the keystore: the `switch` on the type of its learning. The type
of an entry without one comes from `kl_type`. -/
def keeloqHop (klType : BitVec 8) (generic : SubGhzBlockGeneric) (fix decrypt : BitVec 32)
    (entry : SubGhzKey) : BitVec 32 :=
  let simple := entry.key
  let normal := subghzProtocolKeeloqCommonNormalLearning fix entry.key
  let secure := subghzProtocolKeeloqCommonSecureLearning fix generic.seed entry.key
  let magicXor := subghzProtocolKeeloqCommonMagicXorType1Learning generic.serial entry.key
  let magicSerial := subghzProtocolKeeloqCommonMagicSerialType1Learning fix entry.key
  if entry.type = 1 then subghzProtocolKeeloqCommonEncrypt decrypt simple
  else if entry.type = 2 then subghzProtocolKeeloqCommonEncrypt decrypt normal
  else if entry.type = 3 then subghzProtocolKeeloqCommonEncrypt decrypt secure
  else if entry.type = 4 then subghzProtocolKeeloqCommonEncrypt decrypt magicXor
  else if entry.type = 6 then subghzProtocolKeeloqCommonEncrypt decrypt magicSerial
  else if entry.type = 0 then
    if klType = 1 then subghzProtocolKeeloqCommonEncrypt decrypt simple
    else if klType = 2 then subghzProtocolKeeloqCommonEncrypt decrypt normal
    else if klType = 3 then subghzProtocolKeeloqCommonEncrypt decrypt secure
    else if klType = 4 then subghzProtocolKeeloqCommonEncrypt decrypt magicXor
    else 0
  else 0

/-! ### The parts of a transmission -/

/-- The programming mode, which the last button switches on for three manufacturers. -/
def keeloqProgMode (name : String) (btn : BitVec 8) (mode : ProgMode) : ProgMode :=
  if name = "BFT" then
    if btn = 0xF then .keeloqBft else if mode = .keeloqBft then .off else mode
  else if name = "Aprimatic" then
    if btn = 0xF then .keeloqAprimatic else if mode = .keeloqAprimatic then .off else mode
  else if name = "Dea_Mio" then
    if btn = 0xF then .keeloqDeaMio else if mode = .keeloqDeaMio then .off else mode
  else mode

/-- The step of the counter. The multiplier is an `int8_t`, added to a `uint32_t`. -/
def keeloqCounter (mult : BitVec 8) (cnt : BitVec 32) : BitVec 32 :=
  if cnt.toNat < 0xFFFF then
    if 0xFFFF < (cnt + mult.signExtend 32).toNat then 0 else cnt + mult.signExtend 32
  else 0

/-- The twelve bits of Aprimatic: those of the serial number, and a parity in place of the first
two. -/
def keeloqApriSerial (serial : BitVec 32) : BitVec 32 :=
  let apr1 := (List.range 10).countP fun i => serial.getLsbD i
  let apriSerial := serial &&& 0b1111111111
  if apr1 % 2 = 0 then apriSerial ||| 0b110000000000 else apriSerial

/-- The digits of Dea Mio, the first one changed. -/
def keeloqDeaSerial (serial : BitVec 32) : BitVec 32 :=
  let firstDiscNum := (serial >>> 8) &&& 0xF
  (serial &&& 0xFF) ||| (0xC + firstDiscNum.umod 4) <<< 8

/-- The manufacturers with twelve bits of the serial number in the encrypted word. -/
def keeloqTwelveBits : List String :=
  ["DTM_Neo", "FAAC_RC,XT", "Mutanco_Mutancode", "Came_Space", "Genius_Bravo", "GSN"]

/-- The manufacturers with eight bits of the serial number. -/
def keeloqEightBits : List String := ["NICE_Smilo", "NICE_MHOUSE", "JCM_Tech"]

/-- The discriminator: what stands for the serial number in the encrypted word. -/
def keeloqDiscriminator (name : String) (serial : BitVec 32) : BitVec 32 :=
  if name = "Aprimatic" then keeloqApriSerial serial &&& 0xFFF
  else if name ∈ keeloqTwelveBits then serial &&& 0xFFF
  else if name ∈ keeloqEightBits then serial &&& 0xFF
  else if name = "Beninca" then 0
  else if name = "Centurion" then 0x1CE
  else if name = "Monarch" then 0x100
  else if name = "Dea_Mio" then keeloqDeaSerial serial &&& 0xFFF
  else serial &&& 0x3FF

/-- The manufacturers whose discriminator is another one. -/
def keeloqSpecialDiscriminators : List String :=
  ["Aprimatic"] ++ keeloqTwelveBits ++ keeloqEightBits ++
    ["Beninca", "Centurion", "Monarch", "Dea_Mio"]

/-- The manufacturers whose word is not encrypted. -/
def keeloqUnencrypted : List String := ["Unknown", "AN-Motors", "HCS101"]

/-- The word that is encrypted. -/
def keeloqPlain (name : String) (btn : BitVec 8) (serial cnt : BitVec 32) : BitVec 32 :=
  btn.setWidth 32 <<< 28 ||| keeloqDiscriminator name serial <<< 16 ||| cnt

/-- The part in the clear. -/
def keeloqFix (btn : BitVec 8) (serial : BitVec 32) : BitVec 32 :=
  btn.setWidth 32 <<< 28 ||| serial

/-- The word that is sent when no programming mode is on. Without an entry of the keystore it is
zero. -/
def keeloqModeOffHop (name : String) (btn : BitVec 8) (generic : SubGhzBlockGeneric)
    (keystore : SubGhzKeystore) : BitVec 32 :=
  if name = "Unknown" then
    (subghzProtocolBlocksReverseKey generic.data (generic.dataCountBit.setWidth 8)).setWidth 32
  else if name = "AN-Motors" then
    (generic.cnt &&& 0xFF) <<< 24 ||| (generic.cnt &&& 0xFF) <<< 16 |||
      (btn.setWidth 32 &&& 0xF) <<< 12 ||| 0x404
  else if name = "HCS101" then
    generic.cnt <<< 16 ||| (btn.setWidth 32 &&& 0xF) <<< 12 ||| 0x000
  else
    match keystore.data.find? fun entry => entry.name = name with
    | some entry => keeloqHop keystore.klType generic (keeloqFix btn generic.serial)
        (keeloqPlain name btn generic.serial generic.cnt) entry
    | none => 0

/-- `subghz_protocol_keeloq_gen_data`: the result, the encoder and the programming mode. -/
def subghzProtocolKeeloqGenData (mult : BitVec 8) (instance' : SubGhzProtocolEncoderKeeloq)
    (mode : ProgMode) (btn : BitVec 8) (counterUp : Bool) :
    Bool × SubGhzProtocolEncoderKeeloq × ProgMode :=
  let fix := keeloqFix btn instance'.generic.serial
  let name := instance'.manufactureName.getD ""
  let mode := keeloqProgMode name btn mode
  let generic :=
    if counterUp ∧ mode = .off then
      { instance'.generic with cnt := keeloqCounter mult instance'.generic.cnt }
    else instance'.generic
  let hop : BitVec 32 :=
    match mode with
    | .off             => keeloqModeOffHop name btn generic instance'.keystore
    | .keeloqBft       => generic.seed
    | .keeloqAprimatic => 0x1A2B3C4D
    | .keeloqDeaMio    => 0
  let generic :=
    if hop ≠ 0 ∨ mode = .keeloqDeaMio ∨ mode = .keeloqBft then
      { generic with
        data := subghzProtocolBlocksReverseKey (joinWords fix hop) (generic.dataCountBit.setWidth 8) }
    else generic
  (true, { instance' with generic := generic, manufactureName := some name }, mode)

/-! ### Reading a transmission -/

/-- A transmission of 64 bits has a part in the clear and an encrypted one. -/
def SubGhzBlockGeneric.Sends (generic : SubGhzBlockGeneric) (fix hop : BitVec 32) : Prop :=
  let key := subghzProtocolBlocksReverseKey generic.data 64
  (key >>> 32).setWidth 32 = fix ∧ key.setWidth 32 = hop

lemma sends_iff (generic : SubGhzBlockGeneric) (fix hop : BitVec 32) :
    generic.Sends fix hop ↔
      generic.data = subghzProtocolBlocksReverseKey (joinWords fix hop) 64 := by
  constructor
  · rintro ⟨rfl, rfl⟩
    rw [joinWords_parts, subghzProtocolBlocksReverseKey_involutive]
  · intro hdata
    rw [SubGhzBlockGeneric.Sends, hdata, subghzProtocolBlocksReverseKey_involutive]
    exact ⟨joinWords_high fix hop, joinWords_low fix hop⟩

/-! ### What is sent -/

section
variable (mult : BitVec 8) (encoder : SubGhzProtocolEncoderKeeloq) (mode : ProgMode)
  (btn : BitVec 8) (counterUp : Bool)

/-- The counter of the next transmission. -/
def keeloqNextCounter (cnt : BitVec 32) : BitVec 32 :=
  if counterUp then keeloqCounter mult cnt else cnt

/-- The word that is encrypted in the next transmission when the discriminator is the default one:
the button, ten bits of the serial number and the counter. -/
def keeloqDefaultPlain (serial cnt : BitVec 32) : BitVec 32 :=
  btn.setWidth 32 <<< 28 ||| (serial &&& 0x3FF) <<< 16 ||| keeloqNextCounter mult counterUp cnt

/-- The next transmission has the button and the serial number in the clear, and a word that
decrypts to the button, ten bits of the serial number and the new counter. -/
def KeeloqSends (key : BitVec 64) : Prop :=
  let generic := (subghzProtocolKeeloqGenData mult encoder mode btn counterUp).2.1.generic
  ∃ hop, generic.Sends (btn.setWidth 32 <<< 28 ||| encoder.generic.serial) hop ∧
    generic.cnt = keeloqNextCounter mult counterUp encoder.generic.cnt ∧
    subghzProtocolKeeloqCommonDecrypt hop key =
      btn.setWidth 32 <<< 28 ||| (encoder.generic.serial &&& 0x3FF) <<< 16 ||| generic.cnt

variable {mult encoder mode btn counterUp}

lemma keeloqGenData_simple {entry : SubGhzKey}
    (hmode : keeloqProgMode (encoder.manufactureName.getD "") btn mode = .off)
    (hname : encoder.manufactureName.getD "" ∉ keeloqUnencrypted ++ keeloqSpecialDiscriminators)
    (hentry : encoder.keystore.data.find?
      (fun entry => entry.name = encoder.manufactureName.getD "") = some entry)
    (htype : entry.type = 1) :
    let hop := subghzProtocolKeeloqCommonEncrypt
      (keeloqDefaultPlain mult btn counterUp encoder.generic.serial encoder.generic.cnt) entry.key
    let generic := (subghzProtocolKeeloqGenData mult encoder mode btn counterUp).2.1.generic
    generic.cnt = keeloqNextCounter mult counterUp encoder.generic.cnt ∧
    generic.data = if hop ≠ 0 then
      subghzProtocolBlocksReverseKey (joinWords (keeloqFix btn encoder.generic.serial) hop)
        (encoder.generic.dataCountBit.setWidth 8) else encoder.generic.data := by
  intro hop generic
  simp only [keeloqUnencrypted, keeloqSpecialDiscriminators, List.cons_append, List.nil_append,
    List.append_assoc, List.mem_cons, List.mem_append, not_or] at hname
  obtain ⟨hunknown, han, hhcs, haprimatic, htwelve, height, hbeninca, hcenturion, hmonarch, hdea,
    -⟩ := hname
  have hdiscriminator (serial : BitVec 32) :
      keeloqDiscriminator (encoder.manufactureName.getD "") serial = serial &&& 0x3FF := by
    rw [keeloqDiscriminator, if_neg haprimatic, if_neg htwelve, if_neg height, if_neg hbeninca,
      if_neg hcenturion, if_neg hmonarch, if_neg hdea]
  have hoff (generic : SubGhzBlockGeneric) :
      keeloqModeOffHop (encoder.manufactureName.getD "") btn generic encoder.keystore =
        subghzProtocolKeeloqCommonEncrypt (btn.setWidth 32 <<< 28 |||
          (generic.serial &&& 0x3FF) <<< 16 ||| generic.cnt) entry.key := by
    rw [keeloqModeOffHop, if_neg hunknown, if_neg han, if_neg hhcs, hentry]
    simp only [keeloqHop, if_pos htype, keeloqPlain, hdiscriminator]
  cases counterUp with
  | false =>
    simp only [hop, generic, subghzProtocolKeeloqGenData, hmode, hoff, keeloqDefaultPlain,
      keeloqNextCounter, Bool.false_eq_true, false_and,
      if_false, reduceCtorEq, or_false]
    split_ifs with hhop
    · exact ⟨rfl, rfl⟩
    · exact ⟨rfl, rfl⟩
  | true =>
    simp only [hop, generic, subghzProtocolKeeloqGenData, hmode, hoff, keeloqDefaultPlain,
      keeloqNextCounter, and_true, if_true, reduceCtorEq,
      or_false]
    split_ifs with hhop
    · exact ⟨rfl, rfl⟩
    · exact ⟨rfl, rfl⟩

/-- A manufacturer with simple learning sends what it should unless the word that is to be encrypted
is the one that encrypts to zero, when the transmission before is kept. -/
theorem keeloqSends_iff {entry : SubGhzKey}
    (hmode : keeloqProgMode (encoder.manufactureName.getD "") btn mode = .off)
    (hname : encoder.manufactureName.getD "" ∉ keeloqUnencrypted ++ keeloqSpecialDiscriminators)
    (hentry : encoder.keystore.data.find?
      (fun entry => entry.name = encoder.manufactureName.getD "") = some entry)
    (htype : entry.type = 1) (hbits : encoder.generic.dataCountBit = 64) :
    KeeloqSends mult encoder mode btn counterUp entry.key ↔
      keeloqDefaultPlain mult btn counterUp encoder.generic.serial encoder.generic.cnt ≠
          subghzProtocolKeeloqCommonDecrypt 0 entry.key ∨
        encoder.generic.data =
          subghzProtocolBlocksReverseKey (joinWords (keeloqFix btn encoder.generic.serial) 0) 64 := by
  obtain ⟨hcnt, hdata⟩ :=
    @keeloqGenData_simple mult encoder mode btn counterUp entry hmode hname hentry htype
  obtain ⟨hdecrypted, hencrypted, -⟩ := keeloqCommon_inverse entry.key
  have hbits8 : encoder.generic.dataCountBit.setWidth 8 = 64 := by
    rw [hbits]
    rfl
  rw [hbits8] at hdata
  simp only [KeeloqSends, sends_iff, hcnt, hdata]
  generalize hplain :
    keeloqDefaultPlain mult btn counterUp encoder.generic.serial encoder.generic.cnt = plain
  rw [keeloqDefaultPlain] at hplain
  rw [hplain]
  by_cases hhop : subghzProtocolKeeloqCommonEncrypt plain entry.key = 0
  · have hzero : plain = subghzProtocolKeeloqCommonDecrypt 0 entry.key := by
      rw [← hhop, hdecrypted]
    simp only [hhop, ne_eq, not_true_eq_false, if_false]
    constructor
    · rintro ⟨hop, hkept, -, hhop'⟩
      rw [hzero] at hhop'
      have hnone : hop = 0 := by rw [← hencrypted hop, hhop', hencrypted]
      rw [hnone] at hkept
      exact .inr hkept
    · rintro (hne | hkept)
      · exact absurd hzero hne
      · exact ⟨0, hkept, trivial, hzero.symm⟩
  · have hne : plain ≠ subghzProtocolKeeloqCommonDecrypt 0 entry.key := by
      intro heq
      rw [heq, hencrypted] at hhop
      exact hhop rfl
    simp only [ne_eq, hhop, not_false_eq_true, if_true]
    have hdecrypts := hdecrypted plain
    generalize subghzProtocolKeeloqCommonEncrypt plain entry.key = hop at hdecrypts ⊢
    refine iff_of_true ⟨hop, ?_, ?_, ?_⟩ (.inl hne)
    · rw [keeloqFix]
    · trivial
    · exact hdecrypts

/-- A button whose word is not the one that encrypts to zero. -/
theorem keeloqSends_doorhan :
    KeeloqSends 1 ⟨⟨0, 0x1234567, 64, 5, 0⟩, ⟨[⟨"DoorHan", 0, 1⟩], 0⟩, some "DoorHan"⟩ .off 2 true 0 :=
  (@keeloqSends_iff _ _ _ _ _ ⟨"DoorHan", 0, 1⟩ rfl (by decide) (by decide) rfl rfl).mpr
    (.inl (by decide +kernel))

/-- A word that encrypts to zero: the transmission before, which is empty, is kept. -/
theorem not_keeloqSends_doorhan :
    ¬KeeloqSends 1 ⟨⟨0, 0x1234DE2, 64, 0x2045, 0⟩, ⟨[⟨"DoorHan", 0x20566C3DD36, 1⟩], 0⟩, some "DoorHan"⟩
      .off 2 true 0x20566C3DD36 := by
  rintro ⟨hop, ⟨hfix, -⟩, -⟩
  exact absurd hfix (by decide +kernel)

end

end FlipperZero
