import FlipperZero.Nfc.SlixReplies

/-!
# What a SLIX card protects

The blocks under read protection, the blocks under write protection and the AFI are behind the
passwords of the card, and a card in privacy mode keeps its UID and its memory for itself. But the
flags for the passwords outlive the field, and of the standard requests only the inventory looks at
the privacy mode, so that all of this holds in the runs that come upon neither.
-/

namespace FlipperZero

open Foundation

namespace SlixListener

open Iso15693_3Listener

/-! ### Passwords -/

def passwordPresented (l : SlixListener) (r : Iso15693_3Request) :
    Option (SlixPasswordType × BitVec 32) :=
  if r.command = 0xB3 ∧ r.dataSize = 5 then
    (slixListenerGetPasswordTypeById (r.data 0)).map fun passwordType =>
      (passwordType, slixListenerUnxorPassword (r.data.load 32 1) l.sessionState.random)
  else if r.command = 0xBA ∧ r.dataSize = 4 then
    some (.privacy, slixListenerUnxorPassword (r.data.load 32 0) l.sessionState.random)
  else none

/-- The card has such a password, and this is it, unless it takes any. -/
def isPasswordRight (l : SlixListener) (passwordType : SlixPasswordType) (password : BitVec 32) :
    Bool :=
  (slixGetType l.iso.data.uid).any (slixTypeSupportsPassword · passwordType) &&
    (decide (l.data.capabilities = .acceptAllPasswords) ||
      password == l.data.passwords passwordType)

def acceptsPassword (l : SlixListener) (event : SlixNfcEvent) (passwordType : SlixPasswordType) :
    Bool :=
  match event with
  | .rxEnd (.frame rxBuffer size) _ => (l.customTaken rxBuffer size).any fun r =>
      (l.passwordPresented r).any fun (type, password) =>
        decide (type = passwordType) && l.isPasswordRight type password
  | _ => false

/-- The passwords that have been accepted since the field went off. -/
def acceptedAfter (l : SlixListener) (accepted : SlixPasswordType → Bool) (event : SlixNfcEvent) :
    SlixPasswordType → Bool :=
  match event with
  | .fieldOff => fun _ => false
  | event => fun passwordType => accepted passwordType || l.acceptsPassword event passwordType

variable {l l' : SlixListener} {data : Memory} {dataSize : Nat} {flags command : BitVec 8}
  {random : BitVec 16} {r : Iso15693_3Request} {error : Iso15693_3Error}
  {iso iso' : Iso15693_3Listener} {passwordType : SlixPasswordType} {b : Nat}

lemma setPassword_match {presented : Option SlixPasswordType} {password : BitVec 32}
    {slixError : SlixError} (h : l.setPassword presented password = some (slixError, l'))
    (hmatch : l'.sessionState.passwordMatch passwordType = true) :
    l.sessionState.passwordMatch passwordType = true ∨
      presented = some passwordType ∧ l.isPasswordRight passwordType password = true := by
  cases presented with
  | none =>
    cases h
    exact .inl hmatch
  | some presented =>
    obtain ⟨type, htype, h⟩ := Option.bind_eq_some_iff.mp h
    by_cases hsupport : slixTypeSupportsPassword type presented = false
    · rw [if_pos hsupport] at h
      cases h
      exact .inl hmatch
    · rw [if_neg hsupport] at h
      by_cases hother : passwordType = presented
      · subst hother
        have hright (hpassword : l.data.capabilities = .acceptAllPasswords ∨
            password = l.data.passwords passwordType) :
            l.isPasswordRight passwordType password = true := by
          rw [isPasswordRight, htype]
          simpa [hsupport] using hpassword
        split_ifs at h with hcapabilities hpassword
        · exact .inr ⟨rfl, hright (.inl hcapabilities)⟩
        · exact .inr ⟨rfl, hright (.inr hpassword)⟩
        · cases h
          simp [setPasswordMatch] at hmatch
      · refine .inl ?_
        split_ifs at h <;> cases h <;>
          simpa [setPasswordMatch, Function.update_of_ne hother] using hmatch

lemma setPassword_iso {presented : Option SlixPasswordType} {password : BitVec 32}
    {slixError : SlixError} (h : l.setPassword presented password = some (slixError, l')) :
    l'.iso = l.iso := by
  cases presented with
  | none =>
    cases h
    rfl
  | some presented =>
    obtain ⟨type, htype, h⟩ := Option.bind_eq_some_iff.mp h
    split_ifs at h <;> cases h <;> rfl

lemma writePassword_session {presented : Option SlixPasswordType} {password : BitVec 32}
    {slixError : SlixError} (h : l.writePassword presented password = some (slixError, l')) :
    l'.iso = l.iso ∧ (l'.sessionState.passwordMatch passwordType = true →
      l.sessionState.passwordMatch passwordType = true) := by
  cases presented with
  | none =>
    cases h
    exact ⟨rfl, id⟩
  | some presented =>
    obtain ⟨type, -, h⟩ := Option.bind_eq_some_iff.mp h
    dsimp only at h
    split_ifs at h
    · cases h
      exact ⟨rfl, id⟩
    · cases h
      refine ⟨rfl, fun hmatch => ?_⟩
      by_cases hother : passwordType = presented
      · subst hother
        simp [setPasswordMatch] at hmatch
      · simpa [setPasswordMatch, Function.update_of_ne hother] using hmatch
    · cases h
      exact ⟨rfl, id⟩

/-- A custom request leaves the card of the lower layer as it is, and sets the flag of a password
only when it presents the right one. -/
lemma requestHandler_session {slixError : SlixError} {bytes : List (BitVec 8)}
    (h : l.requestHandler r.data r.dataSize random r.command = some (slixError, bytes, l')) :
    l'.iso = l.iso ∧ (l'.sessionState.passwordMatch passwordType = true →
      l.sessionState.passwordMatch passwordType = true ∨
        (l.passwordPresented r).any fun (type, password) =>
          decide (type = passwordType) && l.isPasswordRight type password) := by
  obtain ⟨flags, command, data, dataSize⟩ := r
  dsimp only at h
  unfold requestHandler at h
  split at h
  · cases h
    exact ⟨rfl, .inl⟩
  · cases h
    exact ⟨rfl, .inl⟩
  · obtain ⟨⟨error₁, l₁⟩, h, heq⟩ := Option.map_eq_some_iff.mp h
    cases heq
    unfold setPasswordHandler at h
    split_ifs at h with hsize
    · cases h
      exact ⟨rfl, .inl⟩
    · obtain ⟨⟨error₂, l₂⟩, hset, heq⟩ := Option.map_eq_some_iff.mp h
      have hsame : l'.iso = l₂.iso ∧ l'.sessionState = l₂.sessionState := by
        cases heq
        split_ifs <;> exact ⟨rfl, rfl⟩
      refine ⟨hsame.1.trans (setPassword_iso hset), fun hmatch => ?_⟩
      rw [hsame.2] at hmatch
      refine (setPassword_match hset hmatch).imp_right fun ⟨htype, hright⟩ => ?_
      rw [passwordPresented, if_pos ⟨rfl, not_not.mp hsize⟩, htype]
      simpa using hright
  · obtain ⟨⟨error₁, l₁⟩, h, heq⟩ := Option.map_eq_some_iff.mp h
    cases heq
    unfold writePasswordHandler at h
    split_ifs at h
    · cases h
      exact ⟨rfl, .inl⟩
    · obtain ⟨hiso, hmatch⟩ := writePassword_session h
      exact ⟨hiso, fun h => .inl (hmatch h)⟩
  · cases h
    unfold protectPageHandler
    split_ifs <;> exact ⟨rfl, .inl⟩
  · obtain ⟨⟨error₁, l₁⟩, h, heq⟩ := Option.map_eq_some_iff.mp h
    cases heq
    unfold enablePrivacyHandler at h
    split_ifs at h with hsize
    · cases h
      exact ⟨rfl, .inl⟩
    · obtain ⟨⟨error₂, l₂⟩, hset, heq⟩ := Option.map_eq_some_iff.mp h
      have hsame : l'.iso = l₂.iso ∧ l'.sessionState = l₂.sessionState := by
        cases heq
        split_ifs <;> exact ⟨rfl, rfl⟩
      refine ⟨hsame.1.trans (setPassword_iso hset), fun hmatch => ?_⟩
      rw [hsame.2] at hmatch
      refine (setPassword_match hset hmatch).imp_right fun ⟨htype, hright⟩ => ?_
      cases htype
      rw [passwordPresented, if_neg fun h => absurd (show 0xBA#8 = 0xB3#8 from h.1) (by decide),
        if_pos ⟨rfl, not_not.mp hsize⟩]
      simpa using hright
  · cases h
    exact ⟨rfl, .inl⟩
  · cases h
    exact ⟨rfl, .inl⟩

/-! ### What a standard request leaves of the card -/

/-- The blocks under write protection and the AFI are as before, unless their passwords have been
accepted. -/
structure KeepsProtected (l : SlixListener) (card : Iso15693_3Data) : Prop where
  block : l.sessionState.passwordMatch .write = false →
    ∀ b, l.isBlockProtected .write b = true → card.block b = l.iso.data.block b
  afi : l.sessionState.passwordMatch .easAfi = false →
    card.systemInfo.afi = l.iso.data.systemInfo.afi

/-- An increment of the counter on a card with blocks of one byte, where it goes over to the next
block. -/
def SpillsCounter (l : SlixListener) (r : Iso15693_3Request) : Prop :=
  r.command = 0x21 ∧ r.start = 79 ∧ l.iso.data.blockSize = 1

instance (l : SlixListener) (r : Iso15693_3Request) : Decidable (l.SpillsCounter r) :=
  inferInstanceAs (Decidable (_ ∧ _))

lemma KeepsProtected.of_data {card : Iso15693_3Data} (h : card = l.iso.data) :
    l.KeepsProtected card := by
  subst h
  exact ⟨fun _ _ _ => rfl, fun _ => rfl⟩

lemma KeepsProtected.of_iso {card : Iso15693_3Data} (iso : Iso15693_3Listener)
    (hdata : iso.data = l.iso.data) (h : { l with iso := iso }.KeepsProtected card) :
    l.KeepsProtected card := by
  obtain ⟨_, state, session, txBuffer⟩ := iso
  obtain rfl := hdata
  exact ⟨h.block, h.afi⟩

lemma ne_counter_of_protected (h : l.isBlockProtected passwordType b = true) : b % 256 ≠ 79 := by
  rintro hb
  unfold isBlockProtected slixIsBlockProtected at h
  simp [hb] at h

lemma slixIncrementCounter_block {card card' : Iso15693_3Data}
    (h : slixIncrementCounter card = some card') (hsize : card.blockSize ≠ 1) :
    card'.systemInfo = card.systemInfo ∧ ∀ b ≠ 79, card'.block b = card.block b := by
  obtain ⟨counter, hcounter, h⟩ := Option.bind_eq_some_iff.mp h
  obtain ⟨⟨-, hin⟩, rfl⟩ : (79 < card.blockCount ∧ 79 * card.blockSize < card.blockData.count) ∧
      (fun j => card.blockData.data (79 * card.blockSize + j)) = counter := by
    obtain ⟨hin, heq⟩ := Option.ite_none_right_eq_some.mp hcounter
    exact ⟨hin, Option.some.inj heq⟩
  unfold Iso15693_3Data.setBlockData at h
  obtain ⟨-, heq⟩ := Option.ite_none_right_eq_some.mp h
  cases heq
  have hcount := card.count_blockData
  have hpos : 2 ≤ card.blockSize := by
    have hzero : card.blockSize ≠ 0 := by
      rintro hzero
      rw [← Iso15693_3Data.blockSize, hzero, Nat.mul_zero] at hcount
      omega
    omega
  refine ⟨rfl, fun b hb => List.map_congr_left fun j hj => ?_⟩
  have hj : j < card.blockSize := List.mem_range.mp hj
  change Memory.copy card.blockData.data (79 * card.blockSize) _ (b * card.blockSize + j) = _
  unfold Memory.copy
  split_ifs with hwritten
  · -- only the two bytes behind the value can lie in another block, and they stay as they were
    have habove : 79 < b := by
      by_contra hle
      have hnext : (b + 1) * card.blockSize ≤ 79 * card.blockSize :=
        Nat.mul_le_mul_right _ (by omega)
      rw [Nat.succ_mul] at hnext
      omega
    have hfar : (79 + 1) * card.blockSize ≤ b * card.blockSize := Nat.mul_le_mul_right _ habove
    rw [Nat.succ_mul] at hfar
    simp only [List.length_cons, List.length_nil] at hwritten
    obtain hk | hk : b * card.blockSize + j = 79 * card.blockSize + 2 ∨
        b * card.blockSize + j = 79 * card.blockSize + 3 := by omega
    · rw [hk, Nat.add_sub_cancel_left]
      rfl
    · rw [hk, Nat.add_sub_cancel_left]
      rfl
  · rfl

lemma writeBlockHandler_keepsProtected
    (h : l.writeBlockHandler r.data r.dataSize r.flags = some (error, iso'))
    (hspill : ¬ (r.start = 79 ∧ l.iso.data.blockSize = 1)) : l.KeepsProtected iso'.data := by
  have hstart : (r.data 0).toNat % 256 = r.start := Nat.mod_eq_of_lt (r.data 0).isLt
  unfold writeBlockHandler at h
  dsimp only at h
  split_ifs at h with _ _ hsize
  · cases h
    exact .of_data rfl
  · cases h
    exact .of_data rfl
  · cases h
    exact .of_data rfl
  obtain ⟨locked, -, h⟩ := Option.bind_eq_some_iff.mp h
  cases locked with
  | true =>
    cases h
    exact .of_data rfl
  | false =>
    obtain ⟨result, hext, h⟩ := Option.bind_eq_some_iff.mp h
    unfold writeBlockExtensionHandler at hext
    split_ifs at hext with hcounter hread hwrite
    · obtain ⟨increment, -, hext⟩ := Option.bind_eq_some_iff.mp hext
      split_ifs at hext
      · cases hext
        cases h
        exact .of_data rfl
      · obtain ⟨card, hcard, heq⟩ := Option.map_eq_some_iff.mp hext
        cases heq
        cases h
        obtain ⟨hinfo, hblock⟩ := slixIncrementCounter_block hcard fun hone =>
          hspill ⟨hcounter.1, hone⟩
        refine ⟨fun _ b hb => hblock b fun heq => ?_, fun _ => by rw [hinfo]⟩
        exact ne_counter_of_protected hb (by rw [heq])
    · cases hext
      cases h
      exact .of_data rfl
    · cases hext
      cases h
      exact .of_data rfl
    · cases hext
      obtain ⟨card, hset, h⟩ := Option.bind_eq_some_iff.mp h
      cases h
      have hw := writesBlock_setBlockData (by simpa using hsize) hset
      rw [hstart] at hw
      refine ⟨fun hmatch b hb => ?_, fun _ => by rw [hw.systemInfo]; rfl⟩
      rw [hw.block b, if_neg]
      · rfl
      · rintro rfl
        refine hwrite ?_
        rw [isBlockRefused, isPasswordLockEnabled, hmatch]
        exact Bool.and_eq_true_iff.mpr ⟨hb, rfl⟩

lemma lockBlockHandler_keepsProtected
    (h : l.lockBlockHandler data dataSize flags = some (error, iso')) :
    l.KeepsProtected iso'.data := by
  unfold lockBlockHandler at h
  dsimp only at h
  split_ifs at h
  · cases h
    exact .of_data rfl
  · cases h
    exact .of_data rfl
  obtain ⟨locked, -, h⟩ := Option.bind_eq_some_iff.mp h
  cases locked with
  | true =>
    cases h
    exact .of_data rfl
  | false =>
    simp only [Bool.false_eq_true, if_false] at h
    unfold behindExtension at h
    split_ifs at h
    · obtain ⟨card, hset, h⟩ := Option.bind_eq_some_iff.mp h
      cases h
      obtain ⟨-, heq⟩ := Option.ite_none_right_eq_some.mp hset
      cases heq
      exact ⟨fun _ _ _ => rfl, fun _ => rfl⟩
    · cases h
      exact .of_data rfl

lemma writeAfiHandler_keepsProtected
    (h : l.writeAfiHandler data dataSize flags = some (error, iso')) :
    l.KeepsProtected iso'.data := by
  unfold writeAfiHandler behindExtension writeLockAfiExtensionHandler isPasswordLockEnabled at h
  dsimp only at h
  cases hmatch : l.sessionState.passwordMatch .easAfi with
  | true =>
    refine ⟨fun _ _ _ => ?_, fun hfalse => absurd (hmatch.symm.trans hfalse) nofun⟩
    split_ifs at h <;> cases h <;> rfl
  | false =>
    refine .of_data ?_
    rw [hmatch] at h
    rw [if_pos (by rfl : (!false) = true)] at h
    split_ifs at h with _ _ hnone
    · cases h
      rfl
    · cases h
      rfl
    · cases hnone
    · cases h
      rfl

lemma lockAfiHandler_keepsProtected (h : l.lockAfiHandler flags = some (error, iso')) :
    l.KeepsProtected iso'.data := by
  unfold lockAfiHandler behindExtension at h
  dsimp only at h
  split_ifs at h <;> cases h <;> exact ⟨fun _ _ _ => rfl, fun _ => rfl⟩

lemma readingHandler_data :
    (l.inventoryHandler data dataSize flags = some (error, iso') → iso'.data = l.iso.data) ∧
      (l.readBlockHandler data dataSize flags = some (error, iso') → iso'.data = l.iso.data) ∧
      (l.readMultiBlocksHandler data dataSize flags = some (error, iso') →
        iso'.data = l.iso.data) := by
  refine ⟨fun h => ?_, fun h => ?_, fun h => ?_⟩
  · unfold inventoryHandler behindExtension at h
    dsimp only at h
    split_ifs at h
    all_goals try (cases h; rfl)
    all_goals
      obtain ⟨iso₁, h₁, h⟩ := Option.bind_eq_some_iff.mp h
      obtain ⟨iso₂, h₂, h⟩ := Option.bind_eq_some_iff.mp h
      cases h
      exact (appends_append h₂).data.trans (appends_append h₁).data
  · unfold readBlockHandler behindExtension at h
    dsimp only at h
    split_ifs at h
    all_goals try (cases h; rfl)
    obtain ⟨iso₁, h₁, h⟩ := Option.bind_eq_some_iff.mp h
    cases h
    exact (appends_appendBlockAnswer h₁).data
  · unfold readMultiBlocksHandler behindExtension at h
    dsimp only at h
    split_ifs at h
    all_goals try (cases h; rfl)
    obtain ⟨iso₁, h₁, h⟩ := Option.bind_eq_some_iff.mp h
    cases h
    exact (appends_appendBlocks h₁).data

lemma plainHandler_keepsProtected
    (hextended : command ∉ [0x01#8, 0x20#8, 0x21#8, 0x22#8, 0x23#8, 0x24#8, 0x27#8, 0x28#8])
    (h : l.iso.handler data dataSize flags command = some (some (error, iso'))) :
    l.KeepsProtected iso'.data := by
  have hblock := handler_writesNoBlock (by rintro rfl; exact hextended (by decide))
    (by rintro rfl; exact hextended (by decide)) h
  refine ⟨fun _ b _ => hblock.block b, fun _ => ?_⟩
  unfold Iso15693_3Listener.handler at h
  split at h
  · exact absurd (by decide) hextended
  · cases h
    rfl
  · exact absurd (by decide) hextended
  · exact absurd (by decide) hextended
  · exact absurd (by decide) hextended
  · exact absurd (by decide) hextended
  · exact absurd (by decide) hextended
  · unfold selectHandler at h
    split_ifs at h <;> cases h <;> rfl
  · cases h
    rfl
  · exact absurd (by decide) hextended
  · exact absurd (by decide) hextended
  · unfold writeDsfidHandler at h
    dsimp only at h
    split_ifs at h <;> cases h <;> rfl
  · unfold lockDsfidHandler at h
    dsimp only at h
    split_ifs at h <;> cases h <;> rfl
  · rw [getSystemInfoHandler_data (Option.some.inj h)]
  · rw [getMultiBlocksSecurityHandler_data (Option.some.inj h)]
  · cases h

lemma handler_keepsProtected
    (h : l.handler r.data r.dataSize r.flags r.command = some (some (error, iso')))
    (hspill : ¬ l.SpillsCounter r) : l.KeepsProtected iso'.data := by
  unfold handler at h
  split at h
  · exact .of_data (readingHandler_data.1 (Option.some.inj h))
  · exact .of_data (readingHandler_data.2.1 (Option.some.inj h))
  · rename_i hcommand
    exact writeBlockHandler_keepsProtected (Option.some.inj h) fun hs => hspill ⟨hcommand, hs⟩
  · exact lockBlockHandler_keepsProtected (Option.some.inj h)
  · exact .of_data (readingHandler_data.2.2 (Option.some.inj h))
  · have h := Option.some.inj h
    unfold writeMultiBlocksHandler at h
    dsimp only at h
    split_ifs at h <;> cases h <;> exact .of_data rfl
  · exact writeAfiHandler_keepsProtected (Option.some.inj h)
  · exact lockAfiHandler_keepsProtected (Option.some.inj h)
  · refine plainHandler_keepsProtected ?_ h
    simp only [List.mem_cons, List.not_mem_nil, or_false, not_or]
    refine ⟨?_, ?_, ?_, ?_, ?_, ?_, ?_, ?_⟩ <;> assumption

/-! ### One event -/

/-- A standard request that is let through to read out the UID or the memory. -/
def ReadsOut (l : SlixListener) (r : Iso15693_3Request) : Prop :=
  r.command = 0x2B ∨
    (r.command = 0x20 ∧ r.dataSize = 1 ∧ (r.data 0).toNat < l.iso.data.blockCount ∧
      l.readBlockExtensionHandler (r.data 0).toNat = .none) ∨
    r.command = 0x23 ∧ r.dataSize = 2 ∧
      l.readMultiBlockExtensionHandler (l.multiBlocksRead r.data) = .none

instance (l : SlixListener) (r : Iso15693_3Request) : Decidable (l.ReadsOut r) :=
  inferInstanceAs (Decidable (_ ∨ _ ∨ _))

/-- The passwords for the memory and the AFI. -/
def protectingPasswords : List SlixPasswordType := [.read, .write, .easAfi]

/-- An event that comes upon none of the gaps: the field does not go off after a password was
accepted, no increment of the counter goes over to another block, and in privacy mode no request
reads out the card. -/
def Guarded (l : SlixListener) : SlixNfcEvent → Prop
  | .fieldOff => ∀ passwordType ∈ protectingPasswords,
      l.sessionState.passwordMatch passwordType = false
  | .rxEnd event _ => ∀ r ∈ l.iso.requestTaken event,
      ¬ l.SpillsCounter r ∧ (l.data.privacy = true → ¬ l.ReadsOut r)

instance (l : SlixListener) (event : SlixNfcEvent) : Decidable (l.Guarded event) :=
  match event with
  | .fieldOff => inferInstanceAs (Decidable (∀ passwordType ∈ protectingPasswords, _))
  | .rxEnd event _ => inferInstanceAs (Decidable (∀ r ∈ l.iso.requestTaken event, _))

variable {rxBuffer : Memory} {size : Nat} {reply : SlixReply} {event : SlixNfcEvent}

lemma handleStandard_keepsProtected (h : l.handleStandard rxBuffer r = some (reply, l'))
    (hspill : ¬ l.SpillsCounter r) :
    l'.data = l.data ∧ l'.sessionState = l.sessionState ∧ l.KeepsProtected l'.iso.data := by
  obtain ⟨⟨isoReply, iso⟩, hrequest, heq⟩ := Option.map_eq_some_iff.mp h
  cases heq
  refine ⟨rfl, rfl, ?_⟩
  have hmismatch : (if isoReply.error = .uidMismatch then iso.processUidMismatch rxBuffer
      else iso).data = iso.data := by
    unfold processUidMismatch
    split_ifs <;> rfl
  dsimp only
  rw [hmismatch]
  have hdata := takingUp_data l r.flags
  unfold handleStandardRequest at hrequest
  split_ifs at hrequest
  split at hrequest
  · cases hrequest
    exact .of_data hdata
  · rename_i result hhandler
    obtain ⟨⟨error, iso₁⟩, hresult, hanswer⟩ := Option.bind_eq_some_iff.mp hrequest
    rw [hresult] at hhandler
    obtain ⟨-, hsame, -⟩ := answer_cases hanswer
    rw [hsame]
    have hspill : ¬ { l.takingUp r.flags with
        iso := { (l.takingUp r.flags).iso with txBuffer := [0] } }.SpillsCounter r := by
      unfold SpillsCounter
      dsimp only
      rw [hdata]
      exact hspill
    exact .of_iso { (l.takingUp r.flags).iso with txBuffer := [0] } hdata
      (handler_keepsProtected hhandler hspill)

lemma handleCustom_session (passwordType : SlixPasswordType)
    (h : l.handleCustom random r = some (reply, l')) :
    l'.iso.data = l.iso.data ∧ (l'.sessionState.passwordMatch passwordType = true →
      l.sessionState.passwordMatch passwordType = true ∨
        (l.passwordPresented r).any fun (type, password) =>
          decide (type = passwordType) && l.isPasswordRight type password) := by
  obtain ⟨⟨slixError, bytes, l₁⟩, hrequest, heq⟩ := Option.map_eq_some_iff.mp h
  cases heq
  obtain ⟨hiso, hmatch⟩ := requestHandler_session hrequest
  have hright : (l.takingUp r.flags).isPasswordRight = l.isPasswordRight := by
    funext passwordType password
    unfold isPasswordRight
    rw [takingUp_data]
    rfl
  rw [hright] at hmatch
  exact ⟨(congrArg Iso15693_3Listener.data hiso).trans (takingUp_data l r.flags), hmatch⟩

/-- What an event leaves: what is protected is as before, and the flag of a password is set only
when the password is accepted. -/
lemma run_keepsProtected (passwordType : SlixPasswordType) (h : l.run event = some (reply, l'))
    (hguard : l.Guarded event) :
    l.KeepsProtected l'.iso.data ∧ (l'.sessionState.passwordMatch passwordType = true →
      l.sessionState.passwordMatch passwordType = true ∨
        l.acceptsPassword event passwordType = true) := by
  cases event with
  | fieldOff =>
    cases h
    exact ⟨.of_data rfl, .inl⟩
  | rxEnd event random =>
    cases event with
    | eof =>
      obtain ⟨⟨isoReply, iso⟩, hrun, heq⟩ := Option.map_eq_some_iff.mp h
      cases heq
      refine ⟨.of_data ?_, .inl⟩
      unfold Iso15693_3Listener.run processSingleEof at hrun
      dsimp only at hrun
      split_ifs at hrun
      · obtain ⟨frame, -, heq⟩ := Option.map_eq_some_iff.mp hrun
        cases heq
        rfl
      · cases hrun
        rfl
    | wrongCrc =>
      cases h
      exact ⟨.of_data rfl, .inl⟩
    | frame rxBuffer size =>
      rcases run_frame l rxBuffer size random with
        ⟨r, hr, -, hrun⟩ | ⟨r, -, hr, hrun⟩ | ⟨-, -, iso, hdata, hrun⟩
      · rw [hrun] at h
        obtain ⟨-, hsession, hkeeps⟩ := handleStandard_keepsProtected h (hguard r hr).1
        exact ⟨hkeeps, fun hmatch => .inl (hsession ▸ hmatch)⟩
      · rw [hrun] at h
        obtain ⟨hdata, hmatch⟩ := handleCustom_session passwordType h
        refine ⟨.of_data hdata, fun hset => (hmatch hset).imp_right fun hany => ?_⟩
        rw [acceptsPassword, hr]
        exact hany
      · rw [hrun] at h
        cases h
        exact ⟨.of_data hdata, .inl⟩

/-- What an event respects, with the passwords accepted since the field went off. As long as the
Read password is not among them, the reply is the same for every card that has other contents only
in blocks under read protection. Without the Write password no block under write protection changes,
without that for the AFI the AFI does not. In privacy mode an answer is the same for every card that
answers, whatever its UID and its memory. -/
structure Protects (s : SlixListener × (SlixPasswordType → Bool)) (event : SlixNfcEvent) :
    Prop where
  read : s.2 .read = false → ∀ memory,
    (∀ b, s.1.isBlockProtected .read b = false →
      (s.1.withCard s.1.iso.data.uid memory).iso.data.block b = s.1.iso.data.block b) →
    s.1.SameCounter s.1.iso.data.uid memory →
      ((s.1.withCard s.1.iso.data.uid memory).run event).map Prod.fst =
        (s.1.run event).map Prod.fst
  write : s.2 .write = false → ∀ reply l', s.1.run event = some (reply, l') →
    ∀ b, s.1.isBlockProtected .write b = true → l'.iso.data.block b = s.1.iso.data.block b
  afi : s.2 .easAfi = false → ∀ reply l', s.1.run event = some (reply, l') →
    l'.iso.data.systemInfo.afi = s.1.iso.data.systemInfo.afi
  privacy : s.1.data.privacy = true → ∀ uid memory, s.1.SameCounter uid memory →
    ∀ frame frame', s.1.sentAt event = some frame →
      (s.1.withCard uid memory).sentAt event = some frame' → frame = frame'

end SlixListener

/-- The listener as a machine over events. After a failed check it stays where it was, without a
reply. -/
def slixListener : Mealy SlixListener SlixNfcEvent (Option SlixReply) where
  step l event :=
    match l.run event with
    | some (reply, l') => (some reply, l')
    | none => (none, l)

/-- The listener together with the passwords that have been accepted since the field went off. -/
def slixObserved :
    Mealy (SlixListener × (SlixPasswordType → Bool)) SlixNfcEvent (Option SlixReply) where
  step s event :=
    ((slixListener.step s.1 event).1,
      ((slixListener.step s.1 event).2, s.1.acceptedAfter s.2 event))

namespace SlixListener

variable {l l' : SlixListener} {event : SlixNfcEvent} {accepted : SlixPasswordType → Bool}
  {passwordType : SlixPasswordType} {b : Nat} {memory data : Memory}

/-- The flag of a protecting password is set only when the password has been accepted. -/
def OnlyAccepted (s : SlixListener × (SlixPasswordType → Bool)) : Prop :=
  ∀ passwordType ∈ protectingPasswords,
    s.1.sessionState.passwordMatch passwordType = true → s.2 passwordType = true

lemma onlyAccepted_step {s : SlixListener × (SlixPasswordType → Bool)} (hs : OnlyAccepted s)
    (hguard : s.1.Guarded event) : OnlyAccepted (slixObserved.step s event).2 := by
  obtain ⟨l, accepted⟩ := s
  intro passwordType htype hmatch
  cases event with
  | fieldOff => exact absurd ((hguard passwordType htype).symm.trans hmatch) nofun
  | rxEnd received random =>
    simp only [slixObserved, slixListener] at hmatch ⊢
    refine Bool.or_eq_true_iff.mpr ?_
    cases hrun : l.run (.rxEnd received random) with
    | none =>
      rw [hrun] at hmatch
      exact .inl (hs passwordType htype hmatch)
    | some result =>
      obtain ⟨reply, l'⟩ := result
      rw [hrun] at hmatch
      exact ((run_keepsProtected passwordType hrun hguard).2 hmatch).imp_left
        (hs passwordType htype)

lemma onlyAccepted_false {s : SlixListener × (SlixPasswordType → Bool)} (hs : OnlyAccepted s)
    (htype : passwordType ∈ protectingPasswords) (h : s.2 passwordType = false) :
    s.1.sessionState.passwordMatch passwordType = false :=
  Bool.eq_false_iff.mpr fun hmatch => Bool.eq_false_iff.mp h (hs passwordType htype hmatch)

/-! ### Reads of protected blocks -/

lemma not_protected_of_readable (hmatch : l.sessionState.passwordMatch .read = false) {i : Nat}
    (hread : i = 79 ∨ l.isBlockRefused .read i = false) :
    l.isBlockProtected .read (i % 256) = false := by
  have hmod : l.isBlockProtected .read (i % 256) = l.isBlockProtected .read i := by
    unfold isBlockProtected slixIsBlockProtected
    rw [Nat.mod_mod]
  rw [hmod]
  rcases hread with rfl | hrefused
  · exact Bool.eq_false_iff.mpr fun h => ne_counter_of_protected h rfl
  · simpa [isBlockRefused, isPasswordLockEnabled, hmatch] using hrefused

lemma readable_of_extension (is : List Nat) (h : l.readMultiBlockExtensionHandler is = .none) :
    ∀ i ∈ is, i = 79 ∨ l.isBlockRefused .read i = false := by
  induction is with
  | nil => exact fun i hi => absurd hi List.not_mem_nil
  | cons j is ih =>
    unfold readMultiBlockExtensionHandler at h
    intro i hi
    split_ifs at h with hcounter hrefused
    · rcases List.mem_cons.mp hi with rfl | hi
      · exact .inl hcounter
      · exact ih h i hi
    · rcases List.mem_cons.mp hi with rfl | hi
      · exact .inr (Bool.eq_false_iff.mpr hrefused)
      · exact ih h i hi

lemma readsSame_of_unprotected (hmatch : l.sessionState.passwordMatch .read = false)
    (hblocks : ∀ b, l.isBlockProtected .read b = false →
      (l.withCard l.iso.data.uid memory).iso.data.block b = l.iso.data.block b)
    (hcounter : l.SameCounter l.iso.data.uid memory) (data : Memory) (dataSize : Nat)
    (command : BitVec 8) : l.ReadsSame l.iso.data.uid memory data dataSize command where
  counter := hcounter
  inventory _ _ := rfl
  systemInfo _ := rfl
  readBlock _ _ _ hext := by
    have hreadable : (data 0).toNat = 79 ∨ l.isBlockRefused .read (data 0).toNat = false := by
      unfold readBlockExtensionHandler at hext
      split_ifs at hext with hcounter hrefused
      · exact .inl hcounter
      · exact .inr (Bool.eq_false_iff.mpr hrefused)
    have hfree := not_protected_of_readable hmatch hreadable
    rw [Nat.mod_eq_of_lt (data 0).isLt] at hfree
    exact hblocks _ hfree
  readMulti _ _ hext i hi :=
    hblocks _ (not_protected_of_readable hmatch (readable_of_extension _ hext i hi))

lemma readsSame_of_privacy {uid : Fin 8 → BitVec 8} (hprivacy : l.data.privacy = true)
    (hcounter : l.SameCounter uid memory) {r : Iso15693_3Request} (hread : ¬ l.ReadsOut r) :
    l.ReadsSame uid memory r.data r.dataSize r.command where
  counter := hcounter
  inventory _ hfalse := absurd (hprivacy.symm.trans hfalse) nofun
  systemInfo hcommand := absurd (.inl hcommand) hread
  readBlock hcommand hsize hrange hext :=
    absurd (.inr (.inl ⟨hcommand, hsize, hrange, hext⟩)) hread
  readMulti hcommand hsize hext := absurd (.inr (.inr ⟨hcommand, hsize, hext⟩)) hread

lemma protects {s : SlixListener × (SlixPasswordType → Bool)} (hs : OnlyAccepted s)
    (hguard : s.1.Guarded event) : Protects s event where
  read haccepted memory hblocks hcounter :=
    run_withCard rfl event fun _ _ r _ => readsSame_of_unprotected
      (onlyAccepted_false hs (by decide) haccepted) hblocks hcounter r.data r.dataSize r.command
  write haccepted reply l' hrun :=
    (run_keepsProtected .write hrun hguard).1.block (onlyAccepted_false hs (by decide) haccepted)
  afi haccepted reply l' hrun :=
    (run_keepsProtected .easAfi hrun hguard).1.afi (onlyAccepted_false hs (by decide) haccepted)
  privacy hprivacy uid memory hcounter frame frame' hsent hsent' := by
    refine sentAt_withCard event (fun received random r heq hr => ?_) hsent hsent'
    subst heq
    exact readsSame_of_privacy hprivacy hcounter ((hguard r hr).2 hprivacy)

end SlixListener

open SlixListener in
/-- In a run in which the field does not go off after a password was accepted, no increment of the
counter goes over to another block, and nothing is read out in privacy mode, the card protects its
memory, its AFI and its UID. -/
theorem slixListener_protects (card : Iso15693_3Data) (data : SlixData)
    (events : List SlixNfcEvent)
    (hrun : slixObserved.Along (fun s event => s.1.Guarded event)
      (alloc card data, fun _ => false) events) :
    slixObserved.Along Protects (alloc card data, fun _ => false) events :=
  hrun.mono (I := OnlyAccepted) (fun _ _ hs hguard => onlyAccepted_step hs hguard)
    (fun _ _ hs hguard => protects hs hguard) fun _ _ hmatch => nomatch hmatch

def slixCard : Iso15693_3Data where
  uid := fun i => [0xE0#8, 0x04, 0x01, 0x08].getD i 0
  systemInfo := ⟨0, 0, 0, 0, 80, 4⟩
  lockBits := ⟨false, false⟩
  blockData := ⟨fun _ => 0, 320⟩
  blockSecurity := ⟨fun _ => 0, 80⟩
  count_blockData := rfl
  count_blockSecurity := .inr rfl

/-- All blocks under read and write protection, with passwords of zeros. -/
def slixProtected : SlixData where
  systemInfo := ⟨⟨0, 0x30⟩, ⟨false, false⟩⟩
  signature := fun _ => 0
  passwords := fun _ => 0
  privacy := false
  capabilities := .default

/-- The first block is read before and after the Read password is presented. -/
theorem slixListener_protects_password :
    slixObserved.Along SlixListener.Protects (.alloc slixCard slixProtected, fun _ => false)
      [.rxEnd (iso15693_3Frame [0x02, 0x20, 0]) 0, .fieldOff,
        .rxEnd (iso15693_3Frame [0x02, 0xB3, 0x04, 0x01, 0, 0, 0, 0]) 0,
        .rxEnd (iso15693_3Frame [0x02, 0x20, 0]) 0] :=
  slixListener_protects slixCard slixProtected _ (by decide +kernel)

/-- After the field went off a protected block is still read, and in privacy mode the system
information still has the UID. -/
theorem not_slixListener_protects :
    ¬ slixObserved.Along SlixListener.Protects (.alloc slixCard slixProtected, fun _ => false)
        [.rxEnd (iso15693_3Frame [0x02, 0xB3, 0x04, 0x01, 0, 0, 0, 0]) 0, .fieldOff,
          .rxEnd (iso15693_3Frame [0x02, 0x20, 0]) 0] ∧
      ¬ slixObserved.Along SlixListener.Protects
        (.alloc slixCard { slixProtected with privacy := true }, fun _ => false)
        [.rxEnd (iso15693_3Frame [0x02, 0x2B]) 0] := by
  constructor
  · rintro ⟨-, -, h, -⟩
    have hread := h.read rfl (fun i => if i < 4 then 1 else 0) ?_ (by decide +kernel)
    · have hsent := congrArg (Option.map SlixReply.sent) hread
      rw [Option.map_map, Option.map_map] at hsent
      exact absurd hsent (by decide +kernel)
    · intro b hb
      refine List.map_congr_left fun j hj => if_neg fun hlt => ?_
      have hzero : b * 4 < 4 := Nat.lt_of_le_of_lt (Nat.le_add_right _ j) hlt
      obtain rfl : b = 0 := by omega
      exact absurd hb (by decide +kernel)
  · rintro ⟨h, -⟩
    have hframe := h.privacy rfl (fun _ => 0) (fun _ => 0) (by decide +kernel)
      [0, 0, 0, 0, 0, 0, 8, 1, 4, 0xE0] (List.replicate 10 0) (by decide +kernel)
      (by decide +kernel)
    exact absurd hframe (by decide)

end FlipperZero
