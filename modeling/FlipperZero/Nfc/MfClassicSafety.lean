import FlipperZero.Nfc.MfClassicSession
import Mathlib.Tactic.IntervalCases

/-!
# What a MIFARE Classic reader may change

The listener follows the session of the reader. So a block of the card changes only where the
session admits it, as long as every Transfer stays in the sector of the authentication: the handler
of the Transfer, unlike those of Write and of the first frame of a value command, does not compare
the sectors.
-/

namespace FlipperZero

open Foundation

/-! ### Sending and receiving -/

lemma crypto1Word_bytes (c : Crypto1) (word : BitVec 32) (isEncrypted : Bool) :
    (crypto1Word c word isEncrypted).2 = (numToBytesBe word).foldl (fun c byte =>
      (crypto1Byte c byte isEncrypted).2) c := by
  have hrange : List.range 32 = (List.range 4).flatMap fun k => (List.range 8).map (8 * k + ·) := by
    decide
  simp only [crypto1Word_snd, crypto1Byte_snd, numToBytesBe]
  rw [hrange]
  simp [List.range_succ]

namespace MfClassicListener

variable {s s' : MfClassicListener}

lemma encrypt_cases {keystream : List (BitVec 8)} (h : s.encrypt keystream = some s') :
    ∃ crypto tx, s' = { s with crypto := crypto, txEncryptedBuffer := tx } := by
  obtain ⟨r, -, rfl⟩ := Option.map_eq_some_iff.mp h
  exact ⟨r.1, r.2, rfl⟩

lemma encrypt_nonce {tx tx' : BitBuffer} {nt x : BitVec 32}
    (htx : tx.copyBytes (numToBytesBe nt) = some tx')
    (h : { s with txPlainBuffer := tx' }.encrypt (numToBytesBe x) = some s') :
    s'.crypto = (crypto1Word s.crypto x false).2 := by
  obtain ⟨⟨crypto, out⟩, hcrypto, rfl⟩ := Option.map_eq_some_iff.mp h
  have hsize : tx'.getSize = 4 * 8 := by
    rw [BitBuffer.copyBytes] at htx
    split_ifs at htx
    obtain rfl := Option.some.inj htx
    rfl
  have hfst := crypto1Encrypt_fst (by simp [hsize]) hcrypto
  rw [hsize] at hfst
  rw [crypto1Word_bytes]
  exact hfst

lemma sendNonce_cases {nt : BitVec 32} (h : mfClassicListenerSendNonce s nt = some s') :
    ∃ plain tx, s' = { s with
      crypto := (crypto1Word s.crypto (nt ^^^ s.data.cuid) false).2
      txPlainBuffer := plain
      txEncryptedBuffer := tx } := by
  rw [mfClassicListenerSendNonce] at h
  split_ifs at h
  · obtain ⟨tx, -, rfl⟩ := Option.map_eq_some_iff.mp h
    exact ⟨s.txPlainBuffer, tx, rfl⟩
  · obtain ⟨plain, hplain, h⟩ := Option.bind_eq_some_iff.mp h
    have hcrypto := encrypt_nonce hplain h
    obtain ⟨crypto, tx, rfl⟩ := encrypt_cases h
    exact ⟨plain, tx, by rw [← hcrypto]⟩

lemma sendShortFrame_cases {data : BitVec 8} (h : mfClassicListenerSendShortFrame s data = some s') :
    ∃ crypto plain tx, s' = { s with
      crypto := crypto, txPlainBuffer := plain, txEncryptedBuffer := tx } := by
  obtain ⟨plain, -, h⟩ := Option.bind_eq_some_iff.mp h
  simp only at h
  split_ifs at h
  · obtain ⟨crypto, tx, rfl⟩ := encrypt_cases h
    exact ⟨crypto, plain, tx, rfl⟩
  · obtain rfl := Option.some.inj h
    exact ⟨s.crypto, plain, s.txEncryptedBuffer, rfl⟩

/-- Only a frame of a session in which the reader is authenticated is decrypted. -/
lemma plainFrame_cases {buffer rx : BitBuffer}
    (h : mfClassicListenerPlainFrame s buffer = some (rx, s')) :
    ∃ crypto plain, s' = { s with crypto := crypto, rxPlainBuffer := plain } ∧
      (s.state = .idle → crypto = s.crypto) := by
  rw [mfClassicListenerPlainFrame] at h
  split_ifs at h with hstate
  · obtain ⟨⟨crypto, plain⟩, -, h⟩ := Option.bind_eq_some_iff.mp h
    obtain ⟨rx', -, heq⟩ := Option.map_eq_some_iff.mp h
    obtain ⟨-, rfl⟩ := Prod.mk.inj heq
    refine ⟨crypto, rx', rfl, ?_⟩
    intro hidle
    rw [hstate.2] at hidle
    cases hidle
  · obtain ⟨-, rfl⟩ := Prod.mk.inj (Option.some.inj h)
    exact ⟨s.crypto, s.rxPlainBuffer, rfl, fun _ => rfl⟩

/-! ### The listener in a session -/

/-- The handler of the next frame of a command in progress. -/
def awaitedHandler (s : MfClassicListener) : Option MfClassicListenerCommandHandler :=
  mfClassicListenerCmdHandlers[s.currentCmdIdx]?.bind fun cmd => cmd.handler[s.currentCmdHandlerIdx]?

lemma nextFrame_awaitedHandler {s : MfClassicListener} {i j : Nat} {cmd : MfClassicListenerCmd}
    {handler : MfClassicListenerCommandHandler} (hidx : s.currentCmdIdx = i)
    (hframe : s.currentCmdHandlerIdx = j) (hcmd : mfClassicListenerCmdHandlers[i]? = some cmd)
    (hhandler : cmd.handler[j + 1]? = some handler) :
    s.nextFrame.awaitedHandler = some handler := by
  subst hidx hframe
  exact Option.bind_eq_some_iff.mpr ⟨cmd, hcmd, hhandler⟩

/-- A command is in progress, with its next handler and the state of the authentication. -/
structure Next (s : MfClassicListener) (handler : MfClassicListenerCommandHandler)
    (state : MfClassicListenerState) : Prop where
  inProgress : s.cmdInProgress = true
  handler : s.awaitedHandler = some handler
  state : s.state = state

def Awaits (s : MfClassicListener) : Option MfClassicCommand → Prop
  | none                             => s.cmdInProgress = false
  | some (.auth keyType block nonce) =>
    s.Next mfClassicListenerAuthSecondPartHandler .idle ∧ s.authContext.keyType = keyType ∧
      s.authContext.blockNum = block ∧ s.authContext.nt = nonce ∧
      s.crypto = s.data.sessionCrypto keyType block nonce
  | some (.write block)              =>
    s.Next mfClassicListenerWriteBlockSecondPartHandler .authComplete ∧ s.writeBlock = block ∧
      s.authSector = mfClassicGetSectorByBlock block
  | some .value                      =>
    s.Next mfClassicListenerValueDataReceiveHandler .authComplete ∧
      s.nextFrame.awaitedHandler = some mfClassicListenerValueTransferHandler
  | some .transfer                   => s.Next mfClassicListenerValueTransferHandler .authComplete

/-- The listener follows a session: it takes the reader for authenticated only where the session has
that authentication, and awaits what the reader is about to send. -/
structure Follows (s : MfClassicListener) (session : MfClassicSession) : Prop where
  authenticated : s.state = .authComplete →
    session.authenticated = some (s.authContext.blockNum, s.authContext.keyType)
  command : s.Awaits session.command

/-- What a handler makes of a plain frame of a session: only what the frame admits has changed, and
the listener goes on with the session unless it refuses the frame. -/
structure Answers (s : MfClassicListener) (session : MfClassicSession) (data : MfClassicData)
    (rx : BitBuffer) (random : BitVec 32) (command : MfClassicListenerCommand) : Prop where
  guarded : ∀ block i, s.data.block block i ≠ data.block block i → session.Admits data rx block i
  follows : command ≠ .nack → command ≠ .sleep → s.Follows (session.frame data rx random)
  ack : command = .ack → s.state = .authComplete

variable {session : MfClassicSession} {data : MfClassicData} {rx : BitBuffer} {random : BitVec 32}
  {command : MfClassicListenerCommand}

lemma Answers.refuse (hcommand : command = .nack ∨ command = .sleep) (hdata : s'.data = s.data) :
    s'.Answers session s.data rx random command where
  guarded block i hne := absurd (by rw [hdata]) hne
  follows hnack hsleep := (hcommand.elim hnack hsleep).elim
  ack hack := by
    subst hack
    rcases hcommand with h | h <;> cases h

lemma Answers.keep (hdata : s'.data = s.data)
    (hfollows : s'.Follows (session.frame s.data rx random))
    (hack : command = .ack → s'.state = .authComplete) :
    s'.Answers session s.data rx random command where
  guarded block i hne := absurd (by rw [hdata]) hne
  follows _ _ := hfollows
  ack := hack

/-! ### Handlers -/

lemma haltHandler_answers
    (h : mfClassicListenerHaltHandler s rx random = some (command, s')) :
    s'.Answers session s.data rx random command := by
  obtain ⟨rfl, rfl⟩ := Prod.mk.inj (Option.some.inj h)
  refine .refuse ?_ rfl
  split_ifs
  · exact Or.inr rfl
  · exact Or.inl rfl

lemma authFirstPartHandler_answers {keyType : MfClassicKeyType}
    (hframe : session.frame s.data rx random = ⟨some (.auth keyType (rx.getByte 1) random), none⟩)
    (hnext : s.nextFrame.awaitedHandler = some mfClassicListenerAuthSecondPartHandler)
    (h : mfClassicListenerAuthFirstPartHandler keyType s rx random = some (command, s')) :
    s'.Answers session s.data rx random command := by
  rw [mfClassicListenerAuthFirstPartHandler] at h
  split_ifs at h
  · obtain ⟨rfl, rfl⟩ := Prod.mk.inj (Option.some.inj h)
    exact .refuse (Or.inl rfl) rfl
  · obtain ⟨s₁, hnonce, heq⟩ := Option.map_eq_some_iff.mp h
    obtain ⟨rfl, rfl⟩ := Prod.mk.inj heq
    obtain ⟨plain, tx, rfl⟩ := sendNonce_cases hnonce
    refine .keep rfl ?_ nofun
    rw [hframe]
    exact ⟨nofun, ⟨rfl, hnext, rfl⟩, rfl, rfl, rfl, rfl⟩

lemma authSecondPartHandler_answers {keyType : MfClassicKeyType} {block : BitVec 8}
    {nonce : BitVec 32} (hs : s.Follows session)
    (hcommand : session.command = some (.auth keyType block nonce))
    (h : mfClassicListenerAuthSecondPartHandler s rx random = some (command, s')) :
    s'.Answers session s.data rx random command := by
  have hawaits := hs.command
  rw [hcommand] at hawaits
  obtain ⟨-, rfl, rfl, rfl, hcrypto⟩ := hawaits
  rw [mfClassicListenerAuthSecondPartHandler] at h
  simp only at h
  split_ifs at h with hsize hanswer
  · obtain ⟨rfl, rfl⟩ := Prod.mk.inj (Option.some.inj h)
    exact .refuse (Or.inr rfl) rfl
  · obtain ⟨rfl, rfl⟩ := Prod.mk.inj (Option.some.inj h)
    exact .refuse (Or.inr rfl) rfl
  · obtain ⟨s₁, hsend, heq⟩ := Option.map_eq_some_iff.mp h
    obtain ⟨rfl, rfl⟩ := Prod.mk.inj heq
    obtain ⟨plain, -, hencrypt⟩ := Option.bind_eq_some_iff.mp hsend
    obtain ⟨crypto, tx, rfl⟩ := encrypt_cases hencrypt
    have hproves : s.data.ProvesKey s.authContext.keyType s.authContext.blockNum s.authContext.nt
        rx := by
      refine ⟨not_not.mp hsize, ?_⟩
      rw [← hcrypto]
      exact not_not.mp hanswer
    refine .keep rfl ⟨fun _ => ?_, ?_⟩ nofun
    · rw [MfClassicSession.frame, hcommand]
      exact if_pos hproves
    · rw [MfClassicSession.frame, hcommand]
      exact rfl

lemma readBlockHandler_answers (hs : s.Follows session)
    (hframe : session.frame s.data rx random = session) (hcommand : session.command = none)
    (h : mfClassicListenerReadBlockHandler s rx random = some (command, s')) :
    s'.Answers session s.data rx random command := by
  have hawaits := hs.command
  rw [hcommand] at hawaits
  rw [mfClassicListenerReadBlockHandler] at h
  split_ifs at h
  · obtain ⟨rfl, rfl⟩ := Prod.mk.inj (Option.some.inj h)
    exact .refuse (Or.inl rfl) rfl
  · obtain ⟨rfl, rfl⟩ := Prod.mk.inj (Option.some.inj h)
    exact .refuse (Or.inl rfl) rfl
  · split at h
    · obtain ⟨rfl, rfl⟩ := Prod.mk.inj (Option.some.inj h)
      exact .refuse (Or.inl rfl) rfl
    · obtain ⟨plain, -, h⟩ := Option.bind_eq_some_iff.mp h
      obtain ⟨s₁, hencrypt, heq⟩ := Option.map_eq_some_iff.mp h
      obtain ⟨rfl, rfl⟩ := Prod.mk.inj heq
      obtain ⟨crypto, tx, rfl⟩ := encrypt_cases hencrypt
      refine .keep rfl ?_ nofun
      rw [hframe]
      exact ⟨hs.authenticated, hcommand ▸ hawaits⟩

lemma writeBlockFirstPartHandler_answers (hs : s.Follows session)
    (hframe : session.frame s.data rx random =
      ⟨some (.write (rx.getByte 1)), session.authenticated⟩)
    (hnext : s.nextFrame.awaitedHandler = some mfClassicListenerWriteBlockSecondPartHandler)
    (h : mfClassicListenerWriteBlockFirstPartHandler s rx random = some (command, s')) :
    s'.Answers session s.data rx random command := by
  rw [mfClassicListenerWriteBlockFirstPartHandler] at h
  split_ifs at h with hstate hrange hzero hsector
  iterate 4
    · obtain ⟨rfl, rfl⟩ := Prod.mk.inj (Option.some.inj h)
      exact .refuse (Or.inl rfl) rfl
  · obtain ⟨rfl, rfl⟩ := Prod.mk.inj (Option.some.inj h)
    have hauth := not_not.mp hstate
    refine .keep rfl ?_ fun _ => hauth
    rw [hframe]
    exact ⟨hs.authenticated, ⟨rfl, hnext, hauth⟩, rfl, (not_not.mp hsector).symm⟩

lemma writtenBlock_allowed {block : BitVec 8} {bytes : Memory} {written : MfClassicBlock}
    {i : Fin 16} (h : mfClassicWrittenBlock s block bytes = some written)
    (hne : written i ≠ s.data.block block i) :
    s.isAllowed block (mfClassicWriteAction block i) = true := by
  rw [mfClassicWrittenBlock] at h
  rw [mfClassicWriteAction]
  by_cases htrailer : mfClassicIsSectorTrailer block = true
  · rw [if_pos htrailer] at h ⊢
    obtain ⟨-, h⟩ := Option.ite_none_right_eq_some.mp h
    obtain rfl := Option.some.inj h
    simp only at hne
    split_ifs at hne ⊢ <;> first | assumption | exact absurd rfl hne
  · rw [if_neg htrailer] at h ⊢
    exact (Option.ite_none_right_eq_some.mp h).1

lemma writeBlockSecondPartHandler_answers {block : BitVec 8} (hs : s.Follows session)
    (hcommand : session.command = some (.write block))
    (h : mfClassicListenerWriteBlockSecondPartHandler s rx random = some (command, s')) :
    s'.Answers session s.data rx random command := by
  have hawaits := hs.command
  rw [hcommand] at hawaits
  obtain ⟨hnext, rfl, hsector⟩ := hawaits
  have hauth := hs.authenticated hnext.state
  rw [mfClassicListenerWriteBlockSecondPartHandler] at h
  simp only at h
  split_ifs at h
  · obtain ⟨rfl, rfl⟩ := Prod.mk.inj (Option.some.inj h)
    exact .refuse (Or.inl rfl) rfl
  · split at h
    · obtain ⟨rfl, rfl⟩ := Prod.mk.inj (Option.some.inj h)
      exact .refuse (Or.inl rfl) rfl
    · rename_i written hwritten
      obtain ⟨rfl, rfl⟩ := Prod.mk.inj (Option.some.inj h)
      refine ⟨?_, fun _ _ => ?_, fun _ => hnext.state⟩
      · intro block i hne
        obtain rfl : block = s.writeBlock := by
          by_contra hother
          exact hne (congrFun (Function.update_of_ne hother _ _) i)
        have hne' : written i ≠ s.data.block s.writeBlock i := by
          simpa only [MfClassicData.setBlock, Function.update_self] using hne
        exact ⟨_, _, hauth, hsector, Or.inl ⟨hcommand, writtenBlock_allowed hwritten hne'⟩⟩
      · rw [MfClassicSession.frame, hcommand]
        exact ⟨hs.authenticated, rfl⟩

lemma valueCmdHandler_answers (hs : s.Follows session)
    (hframe : session.frame s.data rx random = ⟨some .value, session.authenticated⟩)
    (hnext : s.nextFrame.awaitedHandler = some mfClassicListenerValueDataReceiveHandler)
    (htransfer : s.nextFrame.nextFrame.awaitedHandler = some mfClassicListenerValueTransferHandler)
    (h : mfClassicListenerValueCmdHandler s rx random = some (command, s')) :
    s'.Answers session s.data rx random command := by
  rw [mfClassicListenerValueCmdHandler] at h
  split_ifs at h with hstate
  iterate 3
    · obtain ⟨rfl, rfl⟩ := Prod.mk.inj (Option.some.inj h)
      exact .refuse (Or.inl rfl) rfl
  split at h
  · obtain ⟨rfl, rfl⟩ := Prod.mk.inj (Option.some.inj h)
    exact .refuse (Or.inl rfl) rfl
  · simp only at h
    split_ifs at h
    · obtain ⟨rfl, rfl⟩ := Prod.mk.inj (Option.some.inj h)
      exact .refuse (Or.inl rfl) rfl
    · obtain ⟨rfl, rfl⟩ := Prod.mk.inj (Option.some.inj h)
      exact .refuse (Or.inl rfl) rfl
    · obtain ⟨rfl, rfl⟩ := Prod.mk.inj (Option.some.inj h)
      have hauth := not_not.mp hstate
      refine .keep rfl ?_ fun _ => hauth
      rw [hframe]
      exact ⟨hs.authenticated, ⟨rfl, hnext, hauth⟩, htransfer⟩

lemma valueDataReceiveHandler_answers (hs : s.Follows session)
    (hcommand : session.command = some .value)
    (h : mfClassicListenerValueDataReceiveHandler s rx random = some (command, s')) :
    s'.Answers session s.data rx random command := by
  have hawaits := hs.command
  rw [hcommand] at hawaits
  obtain ⟨hnext, htransfer⟩ := hawaits
  rw [mfClassicListenerValueDataReceiveHandler] at h
  split_ifs at h
  · obtain ⟨rfl, rfl⟩ := Prod.mk.inj (Option.some.inj h)
    exact .refuse (Or.inl rfl) rfl
  · obtain ⟨rfl, rfl⟩ := Prod.mk.inj (Option.some.inj h)
    refine .keep rfl ?_ nofun
    rw [MfClassicSession.frame, hcommand]
    exact ⟨hs.authenticated, rfl, htransfer, hnext.state⟩

lemma valueTransferHandler_answers (hs : s.Follows session)
    (hcommand : session.command = some .transfer) (hinside : session.TransferInside s.data rx)
    (h : mfClassicListenerValueTransferHandler s rx random = some (command, s')) :
    s'.Answers session s.data rx random command := by
  have hnext := hs.command
  rw [hcommand] at hnext
  have hauth := hs.authenticated hnext.state
  rw [mfClassicListenerValueTransferHandler] at h
  simp only at h
  split_ifs at h with hsize hbyte hallowed
  iterate 3
    · obtain ⟨rfl, rfl⟩ := Prod.mk.inj (Option.some.inj h)
      exact .refuse (Or.inl rfl) rfl
  · obtain ⟨rfl, rfl⟩ := Prod.mk.inj (Option.some.inj h)
    refine ⟨?_, fun _ _ => ?_, fun _ => hnext.state⟩
    · intro block i hne
      have htarget : mfClassicTransferTarget rx = some (rx.getByte 1) :=
        if_pos ⟨not_not.mp hsize, not_not.mp hbyte⟩
      obtain rfl : block = rx.getByte 1 := by
        by_contra hother
        exact hne (congrFun (Function.update_of_ne hother _ _) i)
      have hallowed : s.data.isAllowedAccess (rx.getByte 1) s.authContext.keyType .dataDec = true :=
        Bool.not_eq_false _ ▸ hallowed
      -- The handler has not compared the sectors.
      have hsector := hinside hcommand _ htarget _ hauth hallowed
      exact ⟨_, _, hauth, hsector, Or.inr ⟨hcommand, htarget, hallowed⟩⟩
    · rw [MfClassicSession.frame, hcommand]
      exact ⟨hs.authenticated, rfl⟩

lemma firstFrame_answers (hs : s.Follows session) (hcommand : session.command = none)
    (hfirst : s.currentCmdHandlerIdx = 0) {cmd : MfClassicListenerCmd}
    (hcmd : mfClassicListenerCmdHandlers[s.currentCmdIdx]? = some cmd)
    (hbyte : rx.getByte 0 = cmd.cmdStartByte) {handler : MfClassicListenerCommandHandler}
    (hhandler : cmd.handler[0]? = some handler) (h : handler s rx random = some (command, s')) :
    s'.Answers session s.data rx random command := by
  have hframe : session.frame s.data rx random = session.start rx random := by
    rw [MfClassicSession.frame, hcommand]
  have hlt : s.currentCmdIdx < 9 := (List.getElem?_eq_some_iff.mp hcmd).1
  generalize hidx : s.currentCmdIdx = i at hcmd hlt
  interval_cases i <;> obtain rfl := Option.some.inj hcmd <;> obtain rfl := Option.some.inj hhandler
  · exact haltHandler_answers h
  · exact haltHandler_answers h
  · refine authFirstPartHandler_answers ?_ (nextFrame_awaitedHandler hidx hfirst rfl rfl) h
    simp [hframe, MfClassicSession.start, hbyte]
  · refine authFirstPartHandler_answers ?_ (nextFrame_awaitedHandler hidx hfirst rfl rfl) h
    simp [hframe, MfClassicSession.start, hbyte]
  · refine readBlockHandler_answers hs ?_ hcommand h
    simp [hframe, MfClassicSession.start, hbyte]
  · refine writeBlockFirstPartHandler_answers hs ?_
      (nextFrame_awaitedHandler hidx hfirst rfl rfl) h
    simp [hframe, MfClassicSession.start, hbyte]
  all_goals
    refine valueCmdHandler_answers hs ?_ (nextFrame_awaitedHandler hidx hfirst rfl rfl)
      (nextFrame_awaitedHandler hidx (congrArg (· + 1) hfirst) rfl rfl) h
    simp [hframe, MfClassicSession.start, hbyte]

lemma awaitedFrame_answers (hs : s.Follows session) (hcommand : session.command ≠ none)
    (hinside : session.TransferInside s.data rx) {handler : MfClassicListenerCommandHandler}
    (hhandler : s.awaitedHandler = some handler) (h : handler s rx random = some (command, s')) :
    s'.Answers session s.data rx random command := by
  have hawaits := hs.command
  cases hopen : session.command with
  | none => exact absurd hopen hcommand
  | some opened =>
    rw [hopen] at hawaits
    cases opened with
    | auth keyType block nonce =>
      obtain rfl := Option.some.inj (hhandler.symm.trans hawaits.1.handler)
      exact authSecondPartHandler_answers hs hopen h
    | write block =>
      obtain rfl := Option.some.inj (hhandler.symm.trans hawaits.1.handler)
      exact writeBlockSecondPartHandler_answers hs hopen h
    | value =>
      obtain rfl := Option.some.inj (hhandler.symm.trans hawaits.1.handler)
      exact valueDataReceiveHandler_answers hs hopen h
    | transfer =>
      obtain rfl := Option.some.inj (hhandler.symm.trans hawaits.handler)
      exact valueTransferHandler_answers hs hopen hinside h

lemma Follows.cmdInProgress_iff (hs : s.Follows session) :
    s.cmdInProgress = true ↔ session.command ≠ none := by
  have hawaits := hs.command
  cases hopen : session.command with
  | none =>
    rw [hopen] at hawaits
    exact iff_of_false (Bool.not_eq_true _ ▸ hawaits) (not_not.mpr rfl)
  | some opened =>
    rw [hopen] at hawaits
    refine iff_of_true ?_ (Option.some_ne_none _)
    cases opened with
    | auth => exact hawaits.1.inProgress
    | write => exact hawaits.1.inProgress
    | value => exact hawaits.1.inProgress
    | transfer => exact hawaits.inProgress

lemma handle_answers (hs : s.Follows session) (hinside : session.TransferInside s.data rx)
    (h : mfClassicListenerHandle s rx random = some (command, s')) :
    s'.Answers session s.data rx random command := by
  rw [mfClassicListenerHandle] at h
  by_cases hopen : session.command = none
  · rw [if_neg (hs.cmdInProgress_iff.not.mpr (not_not.mpr hopen))] at h
    split at h
    · obtain ⟨rfl, rfl⟩ := Prod.mk.inj (Option.some.inj h)
      exact .refuse (Or.inl rfl) rfl
    · rename_i i hi
      obtain ⟨hlt, hmatch, -⟩ := List.findIdx?_eq_some_iff_getElem.mp hi
      rw [List.getElem?_eq_getElem hlt, Option.bind_some] at h
      obtain ⟨handler, hhandler, h⟩ := Option.bind_eq_some_iff.mp h
      have hstart : { s with currentCmdIdx := i, currentCmdHandlerIdx := 0 }.Follows session := by
        have hawaits := hs.command
        rw [hopen] at hawaits
        refine ⟨hs.authenticated, ?_⟩
        rw [hopen]
        exact hawaits
      have hanswers := firstFrame_answers hstart hopen rfl (List.getElem?_eq_getElem hlt)
        (eq_of_beq (Bool.and_eq_true_iff.mp hmatch).2) hhandler h
      exact hanswers
  · rw [if_pos (hs.cmdInProgress_iff.mpr hopen)] at h
    obtain ⟨cmd, hcmd, h⟩ := Option.bind_eq_some_iff.mp h
    obtain ⟨handler, hhandler, h⟩ := Option.bind_eq_some_iff.mp h
    exact awaitedFrame_answers hs hopen hinside (Option.bind_eq_some_iff.mpr ⟨cmd, hcmd, hhandler⟩) h

/-! ### One step -/

lemma resetState_follows (s : MfClassicListener) : s.resetState.Follows .closed :=
  ⟨nofun, rfl⟩

lemma Follows.congr_cipher (hs : s.Follows session) {crypto : Crypto1} {plain tx rx : BitBuffer}
    (hcrypto : s.state = .idle → crypto = s.crypto) :
    { s with
      crypto := crypto
      txPlainBuffer := plain
      txEncryptedBuffer := tx
      rxPlainBuffer := rx }.Follows session := by
  refine ⟨hs.authenticated, ?_⟩
  have hawaits := hs.command
  cases hopen : session.command with
  | none =>
    rw [hopen] at hawaits
    exact hawaits
  | some opened =>
    rw [hopen] at hawaits
    cases opened with
    | auth keyType block nonce =>
      obtain ⟨hnext, hkey, hblock, hnonce, hsession⟩ := hawaits
      exact ⟨⟨hnext.1, hnext.2, hnext.3⟩, hkey, hblock, hnonce, (hcrypto hnext.state).trans hsession⟩
    | write block => exact ⟨⟨hawaits.1.1, hawaits.1.2, hawaits.1.3⟩, hawaits.2⟩
    | value => exact ⟨⟨hawaits.1.1, hawaits.1.2, hawaits.1.3⟩, hawaits.2⟩
    | transfer => exact ⟨hawaits.1, hawaits.2, hawaits.3⟩

lemma reply_follows (hs : s.Answers session data rx random command) {reply : NfcCommand}
    (h : mfClassicListenerReply s command = some (reply, s')) :
    s'.data = s.data ∧
      (reply = .sleep ∧ s'.Follows .closed ∨
        reply ≠ .sleep ∧ s'.Follows (session.frame data rx random)) := by
  cases command with
  | processed =>
    obtain ⟨rfl, rfl⟩ := Prod.mk.inj (Option.some.inj h)
    exact ⟨rfl, Or.inr ⟨nofun, hs.follows nofun nofun⟩⟩
  | ack =>
    obtain ⟨s₁, hsend, heq⟩ := Option.map_eq_some_iff.mp h
    obtain ⟨rfl, rfl⟩ := Prod.mk.inj heq
    obtain ⟨crypto, plain, tx, rfl⟩ := sendShortFrame_cases hsend
    refine ⟨rfl, Or.inr ⟨nofun, (hs.follows nofun nofun).congr_cipher ?_⟩⟩
    intro hidle
    rw [hs.ack rfl] at hidle
    cases hidle
  | nack =>
    obtain ⟨s₁, hsend, heq⟩ := Option.map_eq_some_iff.mp h
    obtain ⟨rfl, rfl⟩ := Prod.mk.inj heq
    obtain ⟨crypto, plain, tx, rfl⟩ := sendShortFrame_cases hsend
    exact ⟨rfl, Or.inl ⟨rfl, resetState_follows _⟩⟩
  | silent =>
    obtain ⟨rfl, rfl⟩ := Prod.mk.inj (Option.some.inj h)
    exact ⟨rfl, Or.inr ⟨nofun, hs.follows nofun nofun⟩⟩
  | sleep =>
    obtain ⟨rfl, rfl⟩ := Prod.mk.inj (Option.some.inj h)
    exact ⟨rfl, Or.inl ⟨rfl, resetState_follows _⟩⟩

end MfClassicListener

open MfClassicListener

namespace MfClassicRun

variable {r r' : MfClassicRun} {event : MfClassicListenerEvent}

lemma init_follows (data : MfClassicData) :
    (init data).listener.Follows (init data).session :=
  ⟨nofun, rfl⟩

lemma nextSession_received {buffer rx : BitBuffer} {random : BitVec 32} {reply : NfcCommand}
    (hplain : r.plainFrame (.received buffer random) = some rx) (hreply : reply ≠ .sleep) :
    r.nextSession (.received buffer random) reply =
      r.session.frame r.listener.data rx random := by
  cases reply with
  | continue_ =>
    rw [nextSession, hplain]
    nofun
  | reset =>
    rw [nextSession, hplain]
    nofun
  | sleep => exact absurd rfl hreply

lemma step_follows (hr : r.listener.Follows r.session) (hinside : r.TransferInside event)
    (hstep : mfClassicSystem.step r event = some r') :
    r.Guarded event r' ∧ r'.listener.Follows r'.session := by
  obtain ⟨⟨reply, listener⟩, hrun, rfl⟩ := Option.map_eq_some_iff.mp hstep
  cases event with
  | fieldOff =>
    obtain ⟨rfl, rfl⟩ := Prod.mk.inj (Option.some.inj hrun)
    exact ⟨fun _ _ hne => absurd rfl hne, resetState_follows _⟩
  | halted =>
    obtain ⟨rfl, rfl⟩ := Prod.mk.inj (Option.some.inj hrun)
    exact ⟨fun _ _ hne => absurd rfl hne, resetState_follows _⟩
  | other =>
    obtain ⟨rfl, rfl⟩ := Prod.mk.inj (Option.some.inj hrun)
    exact ⟨fun _ _ hne => absurd rfl hne, hr⟩
  | received buffer random =>
    obtain ⟨⟨rx, s₁⟩, hframe, hrun⟩ := Option.bind_eq_some_iff.mp hrun
    obtain ⟨⟨command, s₂⟩, hhandle, hreply⟩ := Option.bind_eq_some_iff.mp hrun
    have hplain : r.plainFrame (.received buffer random) = some rx :=
      Option.map_eq_some_iff.mpr ⟨_, hframe, rfl⟩
    obtain ⟨crypto, plain, rfl, hcrypto⟩ := plainFrame_cases hframe
    have hanswers := handle_answers (hr.congr_cipher hcrypto) (hinside rx hplain) hhandle
    obtain ⟨hdata, hfollows⟩ := reply_follows hanswers hreply
    refine ⟨?_, ?_⟩
    · intro block i hne
      exact ⟨rx, hplain, hanswers.guarded block i (hdata ▸ hne)⟩
    · rcases hfollows with ⟨rfl, hclosed⟩ | ⟨hreply, hfollows⟩
      · exact hclosed
      · rw [← nextSession_received hplain hreply] at hfollows
        exact hfollows

/-- The listener follows the session in every state that is reached. -/
theorem follows_of_reaches {data : MfClassicData}
    (hrun : mfClassicSystem.Reaches TransferInside (init data) r) :
    r.listener.Follows r.session :=
  hrun.invariant (init_follows data) fun _ _ _ hs hinside hstep => (step_follows hs hinside hstep).2

/-- Without a Transfer to another sector, a byte of the card changes only in a Write or a Transfer
to its block, after an authentication for its sector in the session, and when the access bits allow
it for the key. -/
theorem guarded_of_reaches {data : MfClassicData}
    (hrun : mfClassicSystem.Reaches TransferInside (init data) r)
    (hinside : r.TransferInside event) (hstep : mfClassicSystem.step r event = some r') :
    r.Guarded event r' :=
  (step_follows (follows_of_reaches hrun) hinside hstep).1

/-! ### A Transfer to another sector -/

/-- A card of 64 blocks with the keys and access bits that it is delivered with, and a value in
block 4. -/
def valueCard : MfClassicData where
  type := .type1k
  cuid := 0x01020304
  block := fun block i =>
    if mfClassicIsSectorTrailer block then
      [0xFF, 0xFF, 0xFF, 0xFF, 0xFF, 0xFF, 0xFF, 0x07, 0x80, 0x69, 0xFF, 0xFF, 0xFF, 0xFF, 0xFF,
        0xFF].getD i 0
    else if block = 4 then mfClassicValueToBlock 5 block i
    else 0

/-- A frame, where the random number is zero. -/
def receives (bytes : List (BitVec 8)) : MfClassicListenerEvent := .received (.ofBytes bytes) 0

/-- An authentication with key A of block 4, and a decrement of block 4 by one. -/
def decrements : List MfClassicListenerEvent :=
  [receives [0x60, 0x04],
    receives [0x00, 0x00, 0x00, 0x00, 0x06, 0xC9, 0x01, 0xF8],
    receives [0xC8, 0x34, 0x0C, 0xAC],
    receives [0xA5, 0xE3, 0x0F, 0x4E, 0xC0, 0xE3]]

/-- The encrypted Transfer to block 5, after the decrement. -/
def transfersTo5 : MfClassicListenerEvent := receives [0x60, 0x58, 0x51, 0x68]

/-- The encrypted Transfer to block 8, after the decrement. -/
def transfersTo8 : MfClassicListenerEvent := receives [0x60, 0x55, 0xB4, 0xB3]

attribute [local instance] neZero_blockSize in
/-- The authentication before an event that follows the decrement, the block that the event names,
and the first byte of a block before the event and after it. -/
def afterDecrement (event : MfClassicListenerEvent) (block : BitVec 8) :
    Option (Option (BitVec 8 × MfClassicKeyType) × Option (BitVec 8) × BitVec 8 × BitVec 8) :=
  (mfClassicSystem.replay (fun r _ => r.session.command ≠ some .transfer) (init valueCard)
    decrements).bind fun r =>
      (mfClassicSystem.step r event).map fun r' =>
        (r.session.authenticated, (r.plainFrame event).bind mfClassicTransferTarget,
          r.listener.data.block block 0, r'.listener.data.block block 0)

lemma afterDecrement_run {block : BitVec 8} {auth : Option (BitVec 8 × MfClassicKeyType)}
    {target : Option (BitVec 8)} {old new : BitVec 8}
    (h : afterDecrement event block = some (auth, target, old, new)) :
    ∃ r r', mfClassicSystem.Reaches TransferInside (init valueCard) r ∧
      mfClassicSystem.step r event = some r' ∧ r.session.authenticated = auth ∧
      (r.plainFrame event).bind mfClassicTransferTarget = target ∧
      r.listener.data.block block 0 = old ∧ r'.listener.data.block block 0 = new := by
  obtain ⟨r, hreplay, h⟩ := Option.bind_eq_some_iff.mp h
  obtain ⟨r', hstep, heq⟩ := Option.map_eq_some_iff.mp h
  obtain ⟨hauth, heq⟩ := Prod.mk.inj heq
  obtain ⟨htarget, heq⟩ := Prod.mk.inj heq
  obtain ⟨hold, hnew⟩ := Prod.mk.inj heq
  refine ⟨r, r', ?_, hstep, hauth, htarget, hold, hnew⟩
  exact (System.Reaches.of_replay .refl hreplay).mono fun _ _ hcommand _ _ htransfer =>
    absurd htransfer hcommand

lemma afterDecrement_transfers :
    afterDecrement transfersTo5 5 = some (some (4, .a), some 5, 0, 4) ∧
      afterDecrement transfersTo8 8 = some (some (4, .a), some 8, 0, 4) := by
  decide +kernel

/-- The decrement with a Transfer to another block of the sector. -/
theorem guarded_of_reaches_decrement :
    ∃ r r', mfClassicSystem.Reaches TransferInside (init valueCard) r ∧
      mfClassicSystem.step r transfersTo5 = some r' ∧
      r'.listener.data.block 5 0 ≠ r.listener.data.block 5 0 ∧ r.Guarded transfersTo5 r' := by
  obtain ⟨r, r', hrun, hstep, hauth, htarget, hold, hnew⟩ :=
    afterDecrement_run afterDecrement_transfers.1
  have hinside : r.TransferInside transfersTo5 := by
    intro rx hrx _ block hblock auth hauth' _
    rw [Option.mem_def.mp hrx, Option.bind_some, Option.mem_def.mp hblock] at htarget
    rw [hauth] at hauth'
    obtain rfl := Option.some.inj htarget
    obtain rfl := Option.some.inj hauth'
    decide
  refine ⟨r, r', hrun, hstep, ?_, guarded_of_reaches hrun hinside hstep⟩
  rw [hold, hnew]
  decide

/-- The Transfer changes a block of a sector that the reader is not authenticated for. -/
theorem not_guarded_of_reaches :
    ¬ ∀ (data : MfClassicData) (r r' : MfClassicRun) (event : MfClassicListenerEvent),
      mfClassicSystem.Reaches (fun _ _ => True) (init data) r →
        mfClassicSystem.step r event = some r' → r.Guarded event r' := by
  intro hall
  obtain ⟨r, r', hrun, hstep, hauth, -, hold, hnew⟩ := afterDecrement_run afterDecrement_transfers.2
  have hchange : r'.listener.data.block 8 0 ≠ r.listener.data.block 8 0 := by
    rw [hold, hnew]
    decide
  obtain ⟨rx, -, authBlock, keyType, hauth', hsector, -⟩ :=
    hall _ _ _ _ (hrun.mono fun _ _ _ => trivial) hstep 8 0 hchange
  obtain ⟨rfl, -⟩ := Prod.mk.inj (Option.some.inj (hauth.symm.trans hauth'))
  exact absurd hsector (by decide)

end MfClassicRun

end FlipperZero
