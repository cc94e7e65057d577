import FlipperZero.Nfc.SlixAnswers

/-!
# The replies of a SLIX card

A reception brings a standard request or a custom one that the listener takes up, or nothing is sent
and card and session stay as they are. With it, the replies of two cards are compared: those of
cards with one UID are the same, those of other cards are the same where both answer.
-/

namespace FlipperZero

open Foundation

namespace SlixListener

open Iso15693_3Listener

/-! ### What an event brings -/

attribute [local instance] neZero_uidSize in
def customTaken (l : SlixListener) (rxBuffer : Memory) (size : Nat) : Option Iso15693_3Request :=
  let addressed := (l.iso.selectMode (rxBuffer 0)).2.sessionState.addressed
  let offset := if addressed then 11 else 3
  if offset ≤ size ∧ (l.iso.selectMode (rxBuffer 0)).1 = .none ∧
      0xA2 ≤ (rxBuffer 1).toNat ∧ (rxBuffer 1).toNat < 0xBE ∧ rxBuffer 2 = l.iso.data.uid 1 ∧
      (addressed = true → l.iso.data.isEqualUid (fun i => rxBuffer (3 + i)) = true) then
    some
      { flags := rxBuffer 0
        command := rxBuffer 1
        data := fun i => rxBuffer (offset + i)
        dataSize := size - offset }
  else none

/-- The listener in the mode of a request that it takes up. -/
def takingUp (l : SlixListener) (flags : BitVec 8) : SlixListener :=
  { l with iso := { (l.iso.selectMode flags).2 with txBuffer := [] } }

variable {l l' : SlixListener} {rxBuffer : Memory} {size : Nat} {random : BitVec 16}
  {r : Iso15693_3Request} {reply : SlixReply}

/-- What a reception does to a standard request that is taken up. -/
def handleStandard (l : SlixListener) (rxBuffer : Memory) (r : Iso15693_3Request) :
    Option (SlixReply × SlixListener) :=
  ((l.takingUp r.flags).handleStandardRequest r.data r.dataSize r.flags r.command).map
    fun (reply, iso) => (⟨reply.sent, false⟩, { l with iso :=
      if reply.error = .uidMismatch then iso.processUidMismatch rxBuffer else iso })

/-- What a reception does to a custom request that is taken up. -/
def handleCustom (l : SlixListener) (random : BitVec 16) (r : Iso15693_3Request) :
    Option (SlixReply × SlixListener) :=
  ((l.takingUp r.flags).requestHandler r.data r.dataSize random r.command).map
    fun (error, bytes, l) => (customAnswer error bytes, l)

lemma takingUp_data (l : SlixListener) (flags : BitVec 8) :
    (l.takingUp flags).iso.data = l.iso.data :=
  selectMode_data l.iso flags

/-- A standard command that no handler takes is no custom command. -/
lemma processRequest_of_command (h : (rxBuffer 1).toNat < 0xA0) :
    l.processRequest rxBuffer size random = some (⟨none, false⟩, l) := by
  have hcommand : (rxBuffer 1).toNat < 0xA2 ∨ 0xBE ≤ (rxBuffer 1).toNat :=
    .inl (Nat.lt_trans h (by decide))
  unfold processRequest
  dsimp only
  split_ifs <;> rfl

lemma processRequest_taken (size : Nat) (random : BitVec 16)
    (hmode : (l.iso.selectMode (rxBuffer 0)).1 = .none)
    (huid : rxBuffer 2 = l.iso.data.uid 1) :
    (l.customTaken rxBuffer size = none ∧
      (l.takingUp (rxBuffer 0)).processRequest rxBuffer size random =
        some (⟨none, false⟩, l.takingUp (rxBuffer 0))) ∨
      ∃ r, l.customTaken rxBuffer size = some r ∧
        (l.takingUp (rxBuffer 0)).processRequest rxBuffer size random =
          l.handleCustom random r := by
  unfold processRequest customTaken
  rw [takingUp_data]
  have haddressed : (l.takingUp (rxBuffer 0)).iso.sessionState.addressed =
      (l.iso.selectMode (rxBuffer 0)).2.sessionState.addressed := rfl
  rw [haddressed]
  generalize (l.iso.selectMode (rxBuffer 0)).2.sessionState.addressed = addressed
  cases addressed with
  | false =>
    simp only [Bool.false_eq_true, if_false, Nat.add_zero, false_and, false_implies, and_true]
    by_cases htaken : 3 ≤ size ∧ 0xA2 ≤ (rxBuffer 1).toNat ∧ (rxBuffer 1).toNat < 0xBE
    · refine .inr ⟨_, if_pos ⟨htaken.1, hmode, htaken.2.1, htaken.2.2, huid⟩, ?_⟩
      rw [if_neg (Nat.not_lt.mpr htaken.1), if_neg (Nat.not_lt.mpr htaken.1), if_neg (by omega)]
      rfl
    · refine .inl ⟨if_neg fun h => htaken ⟨h.1, h.2.2.1, h.2.2.2.1⟩, ?_⟩
      split_ifs with h₁ h₂
      · rfl
      · rfl
      · exact absurd (by omega) htaken
  | true =>
    simp only [if_true, Nat.reduceAdd, true_and, true_implies]
    by_cases htaken : 11 ≤ size ∧ 0xA2 ≤ (rxBuffer 1).toNat ∧ (rxBuffer 1).toNat < 0xBE ∧
        l.iso.data.isEqualUid (fun i => rxBuffer (3 + i)) = true
    · refine .inr ⟨_, if_pos ⟨htaken.1, hmode, htaken.2.1, htaken.2.2.1, huid, htaken.2.2.2⟩, ?_⟩
      rw [if_neg (by omega), if_neg (Nat.not_lt.mpr htaken.1), if_neg (by simp [htaken.2.2.2]),
        if_neg (by omega)]
      rfl
    · refine .inl ⟨if_neg fun h => htaken ⟨h.1, h.2.2.1, h.2.2.2.1, h.2.2.2.2.2⟩, ?_⟩
      split_ifs with h₁ h₂ h₃ h₄
      · rfl
      · rfl
      · rfl
      · rfl
      · exact absurd ⟨Nat.not_lt.mp h₂, by omega, by omega, Bool.not_eq_false _ ▸ h₃⟩ htaken

lemma selectMode_error (iso : Iso15693_3Listener) (flags : BitVec 8) :
    (iso.selectMode flags).1 ≠ .notSupported ∧ (iso.selectMode flags).1 ≠ .uidMismatch := by
  unfold selectMode
  dsimp only
  split_ifs <;> exact ⟨nofun, nofun⟩

/-- What a reception does to a frame with a command of the upper half. -/
lemma run_custom (hmode : (l.iso.selectMode (rxBuffer 0)).1 = .none)
    (hcustom : 0xA0 ≤ (rxBuffer 1).toNat) :
    let error := (l.takingUp (rxBuffer 0)).iso.handleCustomRequest (fun i => rxBuffer (2 + i))
      (size - 2)
    let result := if error = .notSupported ∧ (none : Option (List (BitVec 8))) = none then
        (l.takingUp (rxBuffer 0)).processRequest rxBuffer size random
      else some (⟨none, false⟩, { l with iso :=
        if error = .uidMismatch then (l.takingUp (rxBuffer 0)).iso.processUidMismatch rxBuffer
        else (l.takingUp (rxBuffer 0)).iso })
    (∃ r, l.iso.requestTaken (.frame rxBuffer size) = none ∧
      l.customTaken rxBuffer size = some r ∧ result = l.handleCustom random r) ∨
    (l.iso.requestTaken (.frame rxBuffer size) = none ∧ l.customTaken rxBuffer size = none ∧
      ∃ iso, iso.data = l.iso.data ∧ result = some (⟨none, false⟩, { l with iso := iso })) := by
  have hnone : l.iso.requestTaken (.frame rxBuffer size) = none :=
    if_neg fun h => Nat.not_lt.mpr hcustom h.2.2.1
  have hdata := takingUp_data l (rxBuffer 0)
  dsimp only
  by_cases hshort : size - 2 < 1
  · have herror : (l.takingUp (rxBuffer 0)).iso.handleCustomRequest (fun i => rxBuffer (2 + i))
        (size - 2) = .format := if_pos hshort
    rw [herror, if_neg (fun h => nomatch h.1), if_neg nofun]
    refine .inr ⟨hnone, if_neg fun h => ?_, _, hdata, rfl⟩
    have h := h.1
    split_ifs at h <;> omega
  · by_cases huid : rxBuffer 2 = l.iso.data.uid 1
    · have herror : (l.takingUp (rxBuffer 0)).iso.handleCustomRequest (fun i => rxBuffer (2 + i))
          (size - 2) = .notSupported := by
        unfold handleCustomRequest
        rw [if_neg hshort, hdata, if_neg (not_not.mpr huid)]
      rw [herror, if_pos ⟨rfl, rfl⟩]
      rcases processRequest_taken size random hmode huid with
        ⟨htaken, hresult⟩ | ⟨r, htaken, hresult⟩
      · exact .inr ⟨hnone, htaken, _, hdata, hresult⟩
      · exact .inl ⟨r, hnone, htaken, hresult⟩
    · have herror : (l.takingUp (rxBuffer 0)).iso.handleCustomRequest (fun i => rxBuffer (2 + i))
          (size - 2) = .ignore := by
        unfold handleCustomRequest
        rw [if_neg hshort, hdata, if_pos huid]
      rw [herror, if_neg (fun h => nomatch h.1), if_neg nofun]
      exact .inr ⟨hnone, if_neg fun h => huid h.2.2.2.2.1, _, hdata, rfl⟩

lemma bind_standard (hcommand : (rxBuffer 1).toNat < 0xA0)
    (result : Option (Iso15693_3Reply × Iso15693_3Listener)) :
    (result.bind fun x =>
      if x.1.error = .notSupported ∧ x.1.sent = none then
        { l with iso := x.2 }.processRequest rxBuffer size random
      else some (⟨x.1.sent, false⟩, { l with iso :=
        if x.1.error = .uidMismatch then x.2.processUidMismatch rxBuffer else x.2 })) =
      result.map fun x => (⟨x.1.sent, false⟩, { l with iso :=
        if x.1.error = .uidMismatch then x.2.processUidMismatch rxBuffer else x.2 }) := by
  cases result with
  | none => rfl
  | some x =>
    obtain ⟨⟨error, sent⟩, iso⟩ := x
    rw [Option.bind_some, Option.map_some]
    by_cases hsupported : error = .notSupported ∧ sent = none
    · obtain ⟨rfl, rfl⟩ := hsupported
      rw [if_pos ⟨rfl, rfl⟩, processRequest_of_command hcommand, if_neg nofun]
    · rw [if_neg hsupported]

/-- A reception brings a standard request or a custom one that is taken up, or nothing is sent and
card and session stay as they are. -/
lemma run_frame (l : SlixListener) (rxBuffer : Memory) (size : Nat) (random : BitVec 16) :
    (∃ r, l.iso.requestTaken (.frame rxBuffer size) = some r ∧
      l.customTaken rxBuffer size = none ∧
      l.run (.rxEnd (.frame rxBuffer size) random) = l.handleStandard rxBuffer r) ∨
    (∃ r, l.iso.requestTaken (.frame rxBuffer size) = none ∧
      l.customTaken rxBuffer size = some r ∧
      l.run (.rxEnd (.frame rxBuffer size) random) = l.handleCustom random r) ∨
    (l.iso.requestTaken (.frame rxBuffer size) = none ∧ l.customTaken rxBuffer size = none ∧
      ∃ iso, iso.data = l.iso.data ∧ l.run (.rxEnd (.frame rxBuffer size) random) =
        some (⟨none, false⟩, { l with iso := iso })) := by
  unfold run isoProcessRequest
  dsimp only
  rw [selectMode_txBuffer]
  by_cases hsize : size < 2
  · refine .inr (.inr ⟨if_neg fun h => Nat.not_le.mpr hsize h.1, if_neg fun h => ?_, ?_⟩)
    · have h := h.1
      split_ifs at h <;> omega
    · rw [if_pos hsize]
      exact ⟨{ l.iso with txBuffer := [] }, rfl, rfl⟩
  · rw [if_neg hsize]
    by_cases hmode : (l.iso.selectMode (rxBuffer 0)).1 = .none
    · rw [if_neg (not_not.mpr hmode)]
      by_cases hcustom : 0xA0 ≤ (rxBuffer 1).toNat
      · rw [if_pos hcustom, Option.bind_some]
        exact .inr (run_custom hmode hcustom)
      · have hcommand : (rxBuffer 1).toNat < 0xA0 := Nat.lt_of_not_le hcustom
        have hnone : l.customTaken rxBuffer size = none :=
          if_neg fun h => absurd h.2.2.1 (by omega)
        have haddressed := selectMode_addressed hmode
        rw [if_neg hcustom, selectMode_data]
        by_cases hflags : (rxBuffer 0).getLsbD 2 = false ∧ (rxBuffer 0).getLsbD 5 = true
        · rw [if_pos (haddressed.mpr hflags)]
          by_cases htaken : 10 ≤ size ∧ l.iso.data.isEqualUid (fun i => rxBuffer (2 + i)) = true
          · refine .inl ⟨.ofFrame rxBuffer size,
              if_pos ⟨Nat.not_lt.mp hsize, hmode, hcommand, fun _ _ => htaken⟩, hnone, ?_⟩
            rw [if_neg (Nat.not_lt.mpr htaken.1), if_neg (by rw [htaken.2]; nofun), handleStandard,
              Iso15693_3Request.ofFrame, if_pos hflags]
            exact bind_standard hcommand _
          · refine .inr (.inr ⟨if_neg fun h => htaken (h.2.2.2 hflags.1 hflags.2), hnone, ?_⟩)
            by_cases hshort : size < 10
            · rw [if_pos hshort]
              exact ⟨_, takingUp_data l (rxBuffer 0), rfl⟩
            · rw [if_neg hshort, if_pos (Bool.not_eq_true _ ▸ fun h =>
                htaken ⟨Nat.not_lt.mp hshort, h⟩)]
              refine ⟨_, ?_, rfl⟩
              rw [if_pos rfl, processUidMismatch]
              split_ifs <;> exact takingUp_data l (rxBuffer 0)
        · refine .inl ⟨.ofFrame rxBuffer size, if_pos ⟨Nat.not_lt.mp hsize, hmode, hcommand,
            fun h₂ h₅ => absurd ⟨h₂, h₅⟩ hflags⟩, hnone, ?_⟩
          rw [if_neg fun h => hflags (haddressed.mp h), handleStandard, Iso15693_3Request.ofFrame,
            if_neg hflags]
          exact bind_standard hcommand _
    · obtain ⟨hsupported, hmatch⟩ := selectMode_error l.iso (rxBuffer 0)
      refine .inr (.inr ⟨if_neg fun h => hmode h.2.1, if_neg fun h => hmode h.2.1, ?_⟩)
      rw [if_pos hmode, Option.bind_some, if_neg fun h => hsupported h.1, if_neg hmatch]
      exact ⟨{ (l.iso.selectMode (rxBuffer 0)).2 with txBuffer := [] },
        selectMode_data l.iso (rxBuffer 0), rfl⟩

/-! ### The same answer for another card -/

variable {uid : Fin 8 → BitVec 8} {memory data : Memory} {dataSize : Nat}
  {flags command : BitVec 8}

lemma takingUp_withCard :
    (l.withCard uid memory).takingUp flags = (l.takingUp flags).withCard uid memory := by
  unfold takingUp withCard
  rw [withCard_selectMode]
  rfl

lemma readMultiBlockExtensionHandler_iso {iso : Iso15693_3Listener} (h : iso.data = l.iso.data)
    (is : List Nat) : { l with iso := iso }.readMultiBlockExtensionHandler is =
      l.readMultiBlockExtensionHandler is := by
  induction is with
  | nil => rfl
  | cons i is ih =>
    have hrefused : { l with iso := iso }.isBlockRefused .read i = l.isBlockRefused .read i := by
      unfold isBlockRefused isBlockProtected
      rw [h]
      rfl
    rw [readMultiBlockExtensionHandler, readMultiBlockExtensionHandler, ih, hrefused]

lemma ReadsSame.of_iso {iso : Iso15693_3Listener} (hdata : iso.data = l.iso.data)
    (h : l.ReadsSame uid memory data dataSize command) :
    { l with iso := iso }.ReadsSame uid memory data dataSize command := by
  have hmulti := readMultiBlockExtensionHandler_iso hdata
  obtain ⟨card, state, session, txBuffer⟩ := iso
  obtain rfl : card = l.iso.data := hdata
  exact ⟨h.counter, h.inventory, h.systemInfo, h.readBlock, fun hcommand hsize hext =>
    h.readMulti hcommand hsize ((hmulti _).symm.trans hext)⟩

lemma handleStandardRequest_withCard (flags : BitVec 8)
    (h : l.ReadsSame uid memory data dataSize command) :
    ((l.withCard uid memory).handleStandardRequest data dataSize flags command).map Prod.fst =
      (l.handleStandardRequest data dataSize flags command).map Prod.fst := by
  have hsame := handler_sameOutcome flags
    (h.of_iso (rfl : { l.iso with txBuffer := [0] }.data = l.iso.data))
  unfold handleStandardRequest
  by_cases hcommand : command = 0
  · rw [if_pos hcommand, if_pos hcommand]
  · rw [if_neg hcommand, if_neg hcommand]
    have hcleared : { l.withCard uid memory with
        iso := { (l.withCard uid memory).iso with txBuffer := [0] } } =
          { l with iso := { l.iso with txBuffer := [0] } }.withCard uid memory := rfl
    rw [hcleared]
    cases hother : ({ l with iso := { l.iso with txBuffer := [0] } }.withCard uid
        memory).handler data dataSize flags command with
    | none =>
      cases hfirst : { l with iso := { l.iso with txBuffer := [0] } }.handler data dataSize flags
          command with
      | none => rfl
      | some result =>
        rw [hother, hfirst] at hsame
        cases hsame
    | some result' =>
      cases hfirst : { l with iso := { l.iso with txBuffer := [0] } }.handler data dataSize flags
          command with
      | none =>
        rw [hother, hfirst] at hsame
        cases hsame
      | some result =>
        rw [hother, hfirst] at hsame
        have hsame : result'.map outcome = result.map outcome := Option.some.inj hsame
        cases result' with
        | none =>
          cases result with
          | none => rfl
          | some x => cases hsame
        | some x' =>
          cases result with
          | none => cases hsame
          | some x => exact answer_fst (Option.some.inj hsame)

lemma handleStandard_withCard
    (h : l.ReadsSame uid memory r.data r.dataSize r.command) :
    ((l.withCard uid memory).handleStandard rxBuffer r).map Prod.fst =
      (l.handleStandard rxBuffer r).map Prod.fst := by
  have hsame := handleStandardRequest_withCard r.flags (h.of_iso (takingUp_data l r.flags))
  have hsent := congrArg (Option.map fun reply : Iso15693_3Reply =>
    (⟨reply.sent, false⟩ : SlixReply)) hsame
  rw [Option.map_map, Option.map_map] at hsent
  unfold handleStandard
  rw [takingUp_withCard, Option.map_map, Option.map_map]
  exact hsent

/-- The error of a custom request and its answer. -/
def customOutcome (result : SlixError × List (BitVec 8) × SlixListener) :
    SlixError × List (BitVec 8) := (result.1, result.2.1)

lemma setPassword_withCard (huid : uid = l.iso.data.uid) (passwordType : Option SlixPasswordType)
    (password : BitVec 32) :
    ((l.withCard uid memory).setPassword passwordType password).map Prod.fst =
      (l.setPassword passwordType password).map Prod.fst := by
  subst huid
  cases passwordType with
  | none => rfl
  | some passwordType =>
    have htype : slixGetType (l.withCard l.iso.data.uid memory).iso.data.uid =
        slixGetType l.iso.data.uid := rfl
    unfold setPassword
    dsimp only
    rw [htype]
    cases slixGetType l.iso.data.uid with
    | none => rfl
    | some type =>
      exact apply_ite_congr (Option.map Prod.fst) Iff.rfl (fun _ => rfl) fun _ =>
        apply_ite_congr (Option.map Prod.fst) Iff.rfl (fun _ => rfl) fun _ =>
        apply_ite_congr (Option.map Prod.fst) Iff.rfl (fun _ => rfl) fun _ => rfl

lemma setPasswordHandler_withCard (huid : uid = l.iso.data.uid) :
    ((l.withCard uid memory).setPasswordHandler data dataSize).map Prod.fst =
      (l.setPasswordHandler data dataSize).map Prod.fst := by
  refine apply_ite_congr (Option.map Prod.fst) Iff.rfl (fun _ => rfl) fun _ => ?_
  rw [Option.map_map, Option.map_map]
  exact setPassword_withCard huid _ _

lemma enablePrivacyHandler_withCard (huid : uid = l.iso.data.uid) :
    ((l.withCard uid memory).enablePrivacyHandler data dataSize).map Prod.fst =
      (l.enablePrivacyHandler data dataSize).map Prod.fst := by
  refine apply_ite_congr (Option.map Prod.fst) Iff.rfl (fun _ => rfl) fun _ => ?_
  rw [Option.map_map, Option.map_map]
  exact setPassword_withCard huid _ _

lemma writePassword_withCard (huid : uid = l.iso.data.uid)
    (passwordType : Option SlixPasswordType) (password : BitVec 32) :
    ((l.withCard uid memory).writePassword passwordType password).map Prod.fst =
      (l.writePassword passwordType password).map Prod.fst := by
  subst huid
  cases passwordType with
  | none => rfl
  | some passwordType =>
    have htype : slixGetType (l.withCard l.iso.data.uid memory).iso.data.uid =
        slixGetType l.iso.data.uid := rfl
    unfold writePassword
    dsimp only
    rw [htype]
    cases slixGetType l.iso.data.uid with
    | none => rfl
    | some type =>
      exact apply_ite_congr (Option.map Prod.fst) Iff.rfl (fun _ => rfl) fun _ =>
        apply_ite_congr (Option.map Prod.fst) Iff.rfl (fun _ => rfl) fun _ => rfl

lemma writePasswordHandler_withCard (huid : uid = l.iso.data.uid) :
    ((l.withCard uid memory).writePasswordHandler data dataSize).map Prod.fst =
      (l.writePasswordHandler data dataSize).map Prod.fst :=
  apply_ite_congr (Option.map Prod.fst) Iff.rfl (fun _ => rfl) fun _ =>
    writePassword_withCard huid _ _

lemma protectPageHandler_withCard :
    ((l.withCard uid memory).protectPageHandler data dataSize).1 =
      (l.protectPageHandler data dataSize).1 :=
  apply_ite_congr Prod.fst Iff.rfl (fun _ => rfl) fun _ =>
    apply_ite_congr Prod.fst Iff.rfl (fun _ => rfl) fun _ =>
    apply_ite_congr Prod.fst Iff.rfl (fun _ => rfl) fun _ =>
    apply_ite_congr Prod.fst Iff.rfl (fun _ => rfl) fun _ => rfl

lemma requestHandler_withCard (data : Memory) (dataSize : Nat) (random : BitVec 16)
    (command : BitVec 8) (huid : uid = l.iso.data.uid) :
    ((l.withCard uid memory).requestHandler data dataSize random command).map customOutcome =
      (l.requestHandler data dataSize random command).map customOutcome := by
  have hmap {x x' : Option (SlixError × SlixListener)} (h : x.map Prod.fst = x'.map Prod.fst) :
      (x.map fun r => (r.1, ([] : List (BitVec 8)), r.2)).map customOutcome =
        (x'.map fun r => (r.1, ([] : List (BitVec 8)), r.2)).map customOutcome := by
    have hpair := congrArg (Option.map fun error : SlixError => (error, ([] : List (BitVec 8)))) h
    rw [Option.map_map, Option.map_map] at hpair ⊢
    exact hpair
  unfold requestHandler
  split
  · rfl
  · rfl
  · exact hmap (setPasswordHandler_withCard huid)
  · exact hmap (writePasswordHandler_withCard huid)
  · exact congrArg (fun error => some (error, [])) protectPageHandler_withCard
  · exact hmap (enablePrivacyHandler_withCard huid)
  · rfl
  · rfl

lemma handleCustom_withCard (huid : uid = l.iso.data.uid) :
    ((l.withCard uid memory).handleCustom random r).map Prod.fst =
      (l.handleCustom random r).map Prod.fst := by
  have hrequest : Option.map customOutcome
      (((l.takingUp r.flags).withCard uid memory).requestHandler r.data r.dataSize random
        r.command) = Option.map customOutcome
          ((l.takingUp r.flags).requestHandler r.data r.dataSize random r.command) :=
    requestHandler_withCard r.data r.dataSize random r.command
      (huid.trans (congrArg Iso15693_3Data.uid (takingUp_data l r.flags)).symm)
  have hsame := congrArg
    (Option.map fun x : SlixError × List (BitVec 8) => customAnswer x.1 x.2) hrequest
  rw [Option.map_map, Option.map_map] at hsame
  unfold handleCustom
  rw [takingUp_withCard, Option.map_map, Option.map_map]
  exact hsame

/-- An error with which a custom request is answered. -/
def Answered (error : SlixError) : Prop :=
  ¬ (error = .format ∨ error = .wrongPassword ∨ error = .notSupported)

lemma setPassword_answered {passwordType : Option SlixPasswordType} {password : BitVec 32}
    {error : SlixError} (h : l.setPassword passwordType password = some (error, l'))
    (hanswer : Answered error) : error = if passwordType = none then .internal else .none := by
  cases passwordType with
  | none =>
    cases h
    rfl
  | some passwordType =>
    obtain ⟨type, -, h⟩ := Option.bind_eq_some_iff.mp h
    split_ifs at h <;> cases h
    · exact absurd (.inr (.inr rfl)) hanswer
    · rfl
    · rfl
    · exact absurd (.inr (.inl rfl)) hanswer

lemma writePassword_answered {passwordType : Option SlixPasswordType} {password : BitVec 32}
    {error : SlixError} (h : l.writePassword passwordType password = some (error, l'))
    (hanswer : Answered error) : error = if passwordType = none then .internal else .none := by
  cases passwordType with
  | none =>
    cases h
    rfl
  | some passwordType =>
    obtain ⟨type, -, h⟩ := Option.bind_eq_some_iff.mp h
    dsimp only at h
    split_ifs at h <;> cases h
    · exact absurd (.inr (.inr rfl)) hanswer
    · rfl
    · exact absurd (.inr (.inl rfl)) hanswer

/-- The error of a request with a password, if it is answered. -/
def passwordError (data : Memory) : SlixError :=
  if slixListenerGetPasswordTypeById (data 0) = none then .internal else .none

/-- The answer to a custom request that is answered, whatever the card. -/
def customReply (l : SlixListener) (data : Memory) (random : BitVec 16) (command : BitVec 8) :
    SlixError × List (BitVec 8) :=
  match command with
  | 0xAB#8 => (.none, l.nxpSystemInfo)
  | 0xB2#8 => (.none, [random.extractLsb' 0 8, random.extractLsb' 8 8])
  | 0xB3#8 => (passwordError data, [])
  | 0xB4#8 => (passwordError data, [])
  | 0xB6#8 => ((l.protectPageHandler data 2).1, [])
  | 0xBA#8 => (.none, [])
  | _      => (.none, List.ofFn l.data.signature)

lemma requestHandler_answered {error : SlixError} {bytes : List (BitVec 8)}
    (h : l.requestHandler data dataSize random command = some (error, bytes, l'))
    (hanswer : Answered error) : (error, bytes) = l.customReply data random command := by
  unfold requestHandler at h
  split at h
  · cases h
    rfl
  · cases h
    rfl
  · obtain ⟨⟨error, l₁⟩, h, heq⟩ := Option.map_eq_some_iff.mp h
    cases heq
    unfold setPasswordHandler at h
    split_ifs at h
    · cases h
      exact absurd (.inl rfl) hanswer
    · obtain ⟨⟨error₂, l₂⟩, hset, heq⟩ := Option.map_eq_some_iff.mp h
      cases heq
      exact congrArg (·, []) (setPassword_answered hset hanswer)
  · obtain ⟨⟨error, l₁⟩, h, heq⟩ := Option.map_eq_some_iff.mp h
    cases heq
    unfold writePasswordHandler at h
    split_ifs at h
    · cases h
      exact absurd (.inl rfl) hanswer
    · exact congrArg (·, []) (writePassword_answered h hanswer)
  · cases h
    by_cases hsize : dataSize = 2
    · subst hsize
      rfl
    · refine absurd (.inl ?_) hanswer
      exact congrArg Prod.fst (if_pos hsize)
  · obtain ⟨⟨error, l₁⟩, h, heq⟩ := Option.map_eq_some_iff.mp h
    cases heq
    unfold enablePrivacyHandler at h
    split_ifs at h
    · cases h
      exact absurd (.inl rfl) hanswer
    · obtain ⟨⟨error₂, l₂⟩, hset, heq⟩ := Option.map_eq_some_iff.mp h
      cases heq
      exact congrArg (·, []) (setPassword_answered hset hanswer)
  · cases h
    rfl
  · cases h
    exact absurd (.inr (.inr rfl)) hanswer

lemma customReply_withCard :
    (l.withCard uid memory).customReply data random command =
      l.customReply data random command := by
  unfold customReply
  split
  · rfl
  · rfl
  · rfl
  · rfl
  · exact congrArg (·, []) protectPageHandler_withCard
  · rfl
  · rfl

/-- The frame that is sent at an event. -/
def sentAt (l : SlixListener) (event : SlixNfcEvent) : Option (List (BitVec 8)) :=
  (l.run event).bind (·.1.sent)

lemma handleCustom_sent {frame frame' : List (BitVec 8)}
    (h : (l.handleCustom random r).bind (·.1.sent) = some frame)
    (h' : ((l.withCard uid memory).handleCustom random r).bind (·.1.sent) = some frame') :
    frame = frame' := by
  have hsent {l : SlixListener} {frame : List (BitVec 8)}
      (h : (l.handleCustom random r).bind (·.1.sent) = some frame) :
      (customAnswer ((l.takingUp r.flags).customReply r.data random r.command).1
        ((l.takingUp r.flags).customReply r.data random r.command).2).sent = some frame := by
    obtain ⟨⟨reply, l₁⟩, hresult, hframe⟩ := Option.bind_eq_some_iff.mp h
    obtain ⟨⟨error, bytes, l₂⟩, hrequest, heq⟩ := Option.map_eq_some_iff.mp hresult
    cases heq
    have hanswer : Answered error := fun herror => by
      rw [customAnswer, if_pos herror] at hframe
      cases hframe
    rw [← requestHandler_answered hrequest hanswer]
    exact hframe
  have hother := hsent h'
  rw [takingUp_withCard, customReply_withCard, hsent h] at hother
  exact Option.some.inj hother

/-! ### What a card answers -/

lemma requestTaken_ofFrame (h : l.iso.requestTaken (.frame rxBuffer size) = some r) :
    r = .ofFrame rxBuffer size ∧ (rxBuffer 1).toNat < 0xA0 := by
  unfold requestTaken at h
  dsimp only at h
  split_ifs at h with htaken
  exact ⟨(Option.some.inj h).symm, htaken.2.2.1⟩

lemma customTaken_command (h : l.customTaken rxBuffer size = some r) :
    0xA0 ≤ (rxBuffer 1).toNat := by
  unfold customTaken at h
  exact Nat.le_trans (by decide) (Option.ite_none_right_eq_some.mp h).1.2.2.1

lemma requestTaken_withCard (huid : uid = l.iso.data.uid) (event : Iso15693_3NfcEvent) :
    (l.withCard uid memory).iso.requestTaken event = l.iso.requestTaken event := by
  subst huid
  cases event with
  | frame rxBuffer size =>
    unfold requestTaken withCard
    simp only [withCard_selectMode]
    rfl
  | eof => rfl
  | wrongCrc => rfl

lemma customTaken_withCard (huid : uid = l.iso.data.uid) :
    (l.withCard uid memory).customTaken rxBuffer size = l.customTaken rxBuffer size := by
  subst huid
  unfold customTaken withCard
  simp only [withCard_selectMode]
  rfl

lemma customTaken_same {r' : Iso15693_3Request} (h : l.customTaken rxBuffer size = some r)
    (h' : (l.withCard uid memory).customTaken rxBuffer size = some r') : r = r' := by
  unfold customTaken at h h'
  unfold withCard at h'
  simp only [withCard_selectMode, withCard_sessionState] at h'
  exact Option.some.inj ((Option.ite_none_right_eq_some.mp h).2.symm.trans
    (Option.ite_none_right_eq_some.mp h').2)

lemma run_eof_withCard :
    ((l.withCard uid memory).run (.rxEnd .eof random)).map Prod.fst =
      (l.run (.rxEnd .eof random)).map Prod.fst := by
  unfold run Iso15693_3Listener.run processSingleEof
  dsimp only
  rw [Option.map_map, Option.map_map]
  exact apply_ite_congr (Option.map _) Iff.rfl (fun _ => rfl) fun _ => rfl

/-- For a card with the same UID a reception gets the same reply if a standard request that it
brings reads the same. -/
lemma run_withCard (huid : uid = l.iso.data.uid) (event : SlixNfcEvent)
    (h : ∀ rxBuffer size r, l.iso.requestTaken (.frame rxBuffer size) = some r →
      l.ReadsSame uid memory r.data r.dataSize r.command) :
    ((l.withCard uid memory).run event).map Prod.fst = (l.run event).map Prod.fst := by
  cases event with
  | fieldOff => rfl
  | rxEnd event random =>
    cases event with
    | eof => exact run_eof_withCard
    | wrongCrc => rfl
    | frame rxBuffer size =>
      have htaken : (l.withCard uid memory).iso.requestTaken (.frame rxBuffer size) =
          l.iso.requestTaken (.frame rxBuffer size) := requestTaken_withCard huid _
      have hcustom : (l.withCard uid memory).customTaken rxBuffer size =
          l.customTaken rxBuffer size := customTaken_withCard huid
      rcases run_frame l rxBuffer size random with
        ⟨r, hr, -, hrun⟩ | ⟨r, hr, hr', hrun⟩ | ⟨hr, hr', iso, -, hrun⟩
      · rcases run_frame (l.withCard uid memory) rxBuffer size random with
          ⟨r', hother, -, hrun'⟩ | ⟨r', hother, -, hrun'⟩ | ⟨hother, -, iso', -, hrun'⟩
        · obtain rfl : r' = r := Option.some.inj (hother.symm.trans (htaken.trans hr))
          rw [hrun, hrun']
          exact handleStandard_withCard (h rxBuffer size r' hr)
        · cases hother.symm.trans (htaken.trans hr)
        · cases hother.symm.trans (htaken.trans hr)
      · rcases run_frame (l.withCard uid memory) rxBuffer size random with
          ⟨r', -, hother, hrun'⟩ | ⟨r', -, hother, hrun'⟩ | ⟨-, hother, iso', -, hrun'⟩
        · cases hother.symm.trans (hcustom.trans hr')
        · obtain rfl : r' = r := Option.some.inj (hother.symm.trans (hcustom.trans hr'))
          rw [hrun, hrun']
          exact handleCustom_withCard huid
        · cases hother.symm.trans (hcustom.trans hr')
      · rcases run_frame (l.withCard uid memory) rxBuffer size random with
          ⟨r', hother, -, hrun'⟩ | ⟨r', -, hother, hrun'⟩ | ⟨-, -, iso', -, hrun'⟩
        · cases hother.symm.trans (htaken.trans hr)
        · cases hother.symm.trans (hcustom.trans hr')
        · rw [hrun, hrun']
          rfl

/-- For any other card a reception gets the same answer, if it gets one from both and a standard
request reads the same. -/
lemma sentAt_withCard (event : SlixNfcEvent)
    (h : ∀ received random r, event = .rxEnd received random →
      l.iso.requestTaken received = some r → l.ReadsSame uid memory r.data r.dataSize r.command)
    {frame frame' : List (BitVec 8)}
    (hsent : l.sentAt event = some frame)
    (hsent' : (l.withCard uid memory).sentAt event = some frame') : frame = frame' := by
  have hreply {result result' : Option (SlixReply × SlixListener)}
      (heq : result'.map Prod.fst = result.map Prod.fst)
      (hframe : result.bind (·.1.sent) = some frame)
      (hframe' : result'.bind (·.1.sent) = some frame') : frame = frame' := by
    have hbind := congrArg (Option.bind · SlixReply.sent) heq
    simp only [Option.bind_map] at hbind
    exact Option.some.inj (hframe.symm.trans (hbind.symm.trans hframe'))
  unfold sentAt at hsent hsent'
  cases event with
  | fieldOff => cases hsent
  | rxEnd event random =>
    cases event with
    | eof => exact hreply run_eof_withCard hsent hsent'
    | wrongCrc => cases hsent
    | frame rxBuffer size =>
      rcases run_frame l rxBuffer size random with
        ⟨r, hr, -, hrun⟩ | ⟨r, -, hr, hrun⟩ | ⟨-, -, iso, -, hrun⟩
      · rcases run_frame (l.withCard uid memory) rxBuffer size random with
          ⟨r', hr', -, hrun'⟩ | ⟨r', -, hr', hrun'⟩ | ⟨-, -, iso', -, hrun'⟩
        · obtain rfl : r' = r := (requestTaken_ofFrame hr').1.trans (requestTaken_ofFrame hr).1.symm
          rw [hrun] at hsent
          rw [hrun'] at hsent'
          exact hreply (handleStandard_withCard (h _ _ r' rfl hr)) hsent hsent'
        · exact absurd (requestTaken_ofFrame hr).2 (Nat.not_lt.mpr (customTaken_command hr'))
        · rw [hrun'] at hsent'
          cases hsent'
      · rcases run_frame (l.withCard uid memory) rxBuffer size random with
          ⟨r', hr', -, hrun'⟩ | ⟨r', -, hr', hrun'⟩ | ⟨-, -, iso', -, hrun'⟩
        · exact absurd (requestTaken_ofFrame hr').2 (Nat.not_lt.mpr (customTaken_command hr))
        · obtain rfl := customTaken_same hr hr'
          rw [hrun] at hsent
          rw [hrun'] at hsent'
          exact handleCustom_sent hsent hsent'
        · rw [hrun'] at hsent'
          cases hsent'
      · rw [hrun] at hsent
        cases hsent

end SlixListener

end FlipperZero
