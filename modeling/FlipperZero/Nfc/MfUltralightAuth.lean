import FlipperZero.Nfc.MfUltralightAccesses
import FlipperZero.Nfc.MfUltralightReadLeak

/-!
# Password authentication of MIFARE Ultralight

Only PWD_AUTH counts attempts and authenticates on a tag with password authentication; all other
frames keep the count, and keep the authenticated state or drop it. The count goes up by one while
it is below the limit, and a tag that has reached its limit accepts no password.
-/

namespace FlipperZero

open Foundation MfUltralightHandled.Meets

variable {s t u : MfUltralightListener} {buffer : BitBuffer} {des3 : Des3}
  {random : List (BitVec 8)}

/-! ### Handlers that do not authenticate -/

/-- The characters that `mf_ultraligt_mirror_format_counter` prints. -/
def mfUltralightCounterText (counter : BitVec 32) : List (BitVec 8) :=
  formatHexByte (counter.extractLsb' 16 8) ++ formatHexByte (counter.extractLsb' 8 8) ++
    formatHexByte (counter.extractLsb' 0 8)

/-- The text of the mirror is the UID of seven bytes, a separator and the counter. -/
structure MfUltralightListener.ShowsText (s : MfUltralightListener) : Prop where
  uid_length : s.data.uid.length = 7
  text : ∀ k < 21, s.mirror.asciiMirrorData k =
    (s.data.uid.flatMap formatHexByte ++ [0x78] ++ mfUltralightCounterText (s.data.counter 2)).getD
      k 0

lemma length_flatMap_formatHexByte (uid : List (BitVec 8)) :
    (uid.flatMap formatHexByte).length = 2 * uid.length := by
  induction uid with
  | nil => rfl
  | cons byte uid ih =>
    rw [List.flatMap_cons, List.length_append, ih, List.length_cons]
    exact (Nat.add_comm 2 _)

/-- The counter is printed behind the UID and its separator. -/
lemma mirrorFormatCounter_showsText (huid : s.data.uid.length = 7)
    (hfront : ∀ k < 15, s.mirror.asciiMirrorData k =
      (s.data.uid.flatMap formatHexByte ++ [0x78]).getD k 0) :
    (mfUltralightMirrorFormatCounter s).ShowsText := by
  refine ⟨huid, fun k hk => ?_⟩
  have hlength : (s.data.uid.flatMap formatHexByte ++ [0x78]).length = 15 := by
    rw [List.length_append, length_flatMap_formatHexByte, huid]
    rfl
  change Memory.copy _ (s.data.uid.length * 2 + 1)
    (mfUltralightCounterText (s.data.counter 2) ++ [0]) k = _
  rw [huid]
  dsimp only [mfUltralightMirrorFormatCounter]
  by_cases hlt : k < 15
  · rw [Memory.copy_of_lt hlt, hfront k hlt]
    exact (List.getD_append _ _ _ _ (by omega)).symm
  · rw [List.getD_append_right _ _ _ _ (by omega), hlength]
    rw [Memory.copy, if_pos ⟨by omega, by simp [mfUltralightCounterText, formatHexByte]; omega⟩,
      List.getD_append _ _ _ _ (by simp [mfUltralightCounterText, formatHexByte]; omega)]

lemma MfUltralightListener.ShowsText.front (h : s.ShowsText) {k : Nat} (hk : k < 15) :
    s.mirror.asciiMirrorData k = (s.data.uid.flatMap formatHexByte ++ [0x78]).getD k 0 := by
  rw [h.text k (by omega), List.getD_append]
  rw [List.length_append, length_flatMap_formatHexByte, h.uid_length]
  exact hk

lemma MfUltralightListener.ShowsText.congr (h : s.ShowsText)
    (hmirror : t.mirror.asciiMirrorData = s.mirror.asciiMirrorData)
    (huid : t.data.uid = s.data.uid) (hcounter : t.data.counter 2 = s.data.counter 2) :
    t.ShowsText where
  uid_length := by rw [huid, h.uid_length]
  text := by rw [hmirror, huid, hcounter]; exact h.text

lemma singleCounterTryIncrease_showsText (h : s.ShowsText) :
    (mfUltralightSingleCounterTryIncrease s).ShowsText := by
  rw [mfUltralightSingleCounterTryIncrease]
  split
  · dsimp only
    split
    · have hcounted := mirrorFormatCounter_showsText (s := { s with data := { s.data with
        counter := Function.update s.data.counter 2 (s.data.counter 2 + 1) } }) h.uid_length
        fun _ => h.front
      exact hcounted.congr rfl rfl rfl
    · exact h.congr rfl rfl rfl
  · exact h

lemma mirrorReadHandler_text (page : Nat) (dest : Memory) :
    (mfUltralightMirrorReadHandler page dest s).2.mirror.asciiMirrorData =
      s.mirror.asciiMirrorData := by
  rw [mfUltralightMirrorReadHandler]
  split <;> rfl

lemma readPages_text (startPage : Nat) (check : Bool) (n i rollover : Nat) :
    (mfUltralightListenerReadPages startPage check n i rollover s).2.mirror.asciiMirrorData =
      s.mirror.asciiMirrorData := by
  induction n generalizing i rollover s with
  | zero => rfl
  | succ n ih =>
    rw [mfUltralightListenerReadPages]
    split
    · exact ih _ _
    · exact (ih _ _).trans (mirrorReadHandler_text _ _)

lemma mirrorReadPrepare_text {startPage : Nat}
    (h : mfUltralightMirrorReadPrepare startPage s = .ok t) :
    t.mirror.asciiMirrorData = s.mirror.asciiMirrorData := by
  rw [mfUltralightMirrorReadPrepare, mfUltralightMirrorEnabled] at h
  split_ifs at h
  · cases hbounds : mfUltralightMirrorCheckBoundaries s with
    | none =>
      rw [hbounds] at h
      cases h
    | some result =>
      obtain ⟨_ | _, actualMode⟩ := result <;> rw [hbounds] at h <;> cases h <;> rfl
  · cases h
    rfl

/-- The type, the authentication and the count of attempts are as before; the text of the mirror is
still the right one, on a tag whose counters are not increased by a command. -/
structure MfUltralightListener.SameAuth (s t : MfUltralightListener) : Prop where
  type_eq : t.data.type = s.data.type
  authState_eq : t.authState = s.authState
  authAttempts_eq : t.data.authAttempts = s.data.authAttempts
  showsText : s.supports .incCounter = false → s.ShowsText → t.ShowsText

namespace MfUltralightListener.SameAuth

protected lemma refl (s : MfUltralightListener) : s.SameAuth s := ⟨rfl, rfl, rfl, fun _ h => h.congr rfl rfl rfl⟩

end MfUltralightListener.SameAuth

lemma readPages_withMirror (startPage : Nat) (check : Bool) (n i rollover : Nat)
    (s : MfUltralightListener) (mirror : MfUltralightMirrorMode) : ∃ mirror',
      (mfUltralightListenerReadPages startPage check n i rollover (s.withMirror mirror)).2 =
        s.withMirror mirror' := by
  induction n generalizing i rollover mirror with
  | zero => exact ⟨mirror, rfl⟩
  | succ n ih =>
    rw [mfUltralightListenerReadPages]
    dsimp only
    split
    · exact ih _ _ _
    · obtain ⟨mirror', -, hstate⟩ := mirrorReadHandler_state s mirror _ _
      rw [hstate]
      exact ih _ _ _

lemma performRead_sameAuth {startPage pageCnt : Nat} {check : Bool} {pages : List (BitVec 8)}
    (h : mfUltralightListenerPerformRead s startPage pageCnt check = .ok (pages, t)) :
    s.SameAuth t := by
  rw [mfUltralightListenerPerformRead] at h
  cases hprepare : mfUltralightMirrorReadPrepare startPage s with
  | error fault =>
    rw [hprepare] at h
    cases h
  | ok v =>
    obtain ⟨mirror, rfl, -⟩ := mirrorReadPrepare_withMirror hprepare
    obtain ⟨mirror', hpages⟩ := readPages_withMirror startPage check pageCnt 0 0 s mirror
    rw [hprepare] at h
    obtain rfl := congrArg Prod.snd (Except.ok.inj h)
    dsimp only
    have hshows : s.ShowsText → (mfUltralightSingleCounterTryIncrease
        (mfUltralightListenerReadPages startPage check pageCnt 0 0 (s.withMirror mirror)).2).ShowsText :=
      fun h => singleCounterTryIncrease_showsText (h.congr
        ((readPages_text startPage check pageCnt 0 0).trans (mirrorReadPrepare_text hprepare))
        (by rw [hpages]; rfl) (by rw [hpages]; rfl))
    refine ⟨?_, ?_, ?_, fun _ => hshows⟩
    all_goals
      rw [hpages, mfUltralightSingleCounterTryIncrease]
      split_ifs <;> rfl

lemma performRead_meets_sameAuth {startPage pageCnt : Nat} {check : Bool} :
    MfUltralightHandled.Meets
      (match mfUltralightListenerPerformRead s startPage pageCnt check with
        | .error fault => .error fault
        | .ok (pages, s) => .ok (.processed, s.send (.standardFrame pages))) s.SameAuth := by
  split
  · exact error
  · rename_i heq
    have hsame := performRead_sameAuth heq
    exact ok nofun ⟨hsame.1, hsame.2, hsame.3, fun hinc h => (hsame.4 hinc h).congr rfl rfl rfl⟩

lemma performWrite_sameAuth (rxData : Memory) (startPage : Nat) (doI2CCheck : Bool) :
    MfUltralightHandled.Meets (.ok (mfUltralightListenerPerformWrite s rxData startPage
      doI2CCheck)) s.SameAuth := by
  rw [mfUltralightListenerPerformWrite]
  split_ifs <;> exact ok nofun ⟨rfl, rfl, rfl, fun _ h => h.congr rfl rfl rfl⟩

/-- The handlers of the table but PWD_AUTH keep the authentication. -/
lemma mfUltralightCommand_sameAuth {handler : MfUltralightListenerCmdHandler}
    (hmem : handler ∈ mfUltralightCommand des3 random) (hcmd : handler.cmd ≠ 0x1B) :
    (handler.callback s buffer).Meets s.SameAuth := by
  have hsame {r : MfUltralightHandled} {command : MfUltralightCommand} (hr : r = .ok (command, s))
      (hcommand : command ≠ .notFound) : r.Meets s.SameAuth := hr ▸ ok hcommand (.refl s)
  simp only [mfUltralightCommand, List.mem_cons, List.not_mem_nil, or_false] at hmem
  rcases hmem with rfl | rfl | rfl | rfl | rfl | rfl | rfl | rfl | rfl | rfl | rfl | rfl | rfl | rfl
  · dsimp only [mfUltralightListenerReadPageHandler]
    split_ifs
    all_goals first
      | exact hsame rfl (by decide)
      | exact performRead_meets_sameAuth
  · dsimp only [mfUltralightListenerFastReadHandler]
    split_ifs
    all_goals first
      | exact hsame rfl (by decide)
      | exact error
      | exact performRead_meets_sameAuth
  · dsimp only [mfUltralightListenerWritePageHandler]
    split_ifs
    all_goals first
      | exact hsame rfl (by decide)
      | exact performWrite_sameAuth _ _ _
  · dsimp only [mfUltralightListenerFastWriteHandler]
    split_ifs <;> exact hsame rfl (by decide)
  · dsimp only [mfUltralightListenerReadVersionHandler]
    split_ifs <;> exact ok (by decide) ⟨rfl, rfl, rfl, fun _ h => h.congr rfl rfl rfl⟩
  · dsimp only [mfUltralightListenerReadSignatureHandler]
    split_ifs <;> exact ok (by decide) ⟨rfl, rfl, rfl, fun _ h => h.congr rfl rfl rfl⟩
  · dsimp only [mfUltralightListenerReadCounterHandler]
    split_ifs <;> exact ok (by decide) ⟨rfl, rfl, rfl, fun _ h => h.congr rfl rfl rfl⟩
  · dsimp only [mfUltralightListenerCheckTearingHandler]
    split_ifs <;> exact ok (by decide) ⟨rfl, rfl, rfl, fun _ h => h.congr rfl rfl rfl⟩
  · exact absurd rfl hcmd
  · dsimp only [mfUltralightListenerIncreaseCounterHandler]
    split_ifs with hsupports
    · exact hsame rfl (by decide)
    · exact hsame rfl (by decide)
    · exact hsame rfl (by decide)
    · split
      · exact error
      · split_ifs
        · exact ok (by decide) (.refl s)
        · exact ok (by decide) ⟨rfl, rfl, rfl, fun hinc _ => absurd hsupports (by simp [hinc])⟩
  · dsimp only [mfUltralightSectorSelectHandlerP1]
    split_ifs <;> exact ok (by decide) ⟨rfl, rfl, rfl, fun _ h => h.congr rfl rfl rfl⟩
  · dsimp only [mfUltralightCompWriteHandlerP1]
    split_ifs <;> exact ok (by decide) ⟨rfl, rfl, rfl, fun _ h => h.congr rfl rfl rfl⟩
  · dsimp only [mfUltralightListenerVcslHandler]
    split_ifs <;> exact ok (by decide) ⟨rfl, rfl, rfl, fun _ h => h.congr rfl rfl rfl⟩
  · dsimp only [mfUltralightCAuthenticateHandlerP1]
    split_ifs
    · exact hsame rfl (by decide)
    · exact error
    · exact ok (by decide) ⟨rfl, rfl, rfl, fun _ h => h.congr rfl rfl rfl⟩

/-- The second frame of a command keeps the authentication, on a tag that is not an Ultralight
C. -/
lemma mfUltralightCompositeCommandRun_sameAuth {handler : MfUltralightCompositeHandler}
    {command : MfUltralightCommand} (htype : s.data.type ≠ .mfulC)
    (h : mfUltralightCompositeCommandRun des3 handler s buffer = .ok (command, t)) :
    s.SameAuth t := by
  have hcallback : (handler.callback des3 s buffer).Meets s.SameAuth := by
    cases handler with
    | compWriteP2 =>
      show (mfUltralightCompWriteHandlerP2 s buffer).Meets s.SameAuth
      unfold mfUltralightCompWriteHandlerP2
      split_ifs
      · exact ok nofun (.refl s)
      · exact performWrite_sameAuth _ _ _
    | sectorSelectP2 =>
      show (mfUltralightSectorSelectHandlerP2 s buffer).Meets s.SameAuth
      unfold mfUltralightSectorSelectHandlerP2
      split_ifs <;> exact ok nofun ⟨rfl, rfl, rfl, fun _ h => h.congr rfl rfl rfl⟩
    | cAuthenticateP2 =>
      show (mfUltralightCAuthenticateHandlerP2 des3 s buffer).Meets s.SameAuth
      unfold mfUltralightCAuthenticateHandlerP2
      rw [if_pos htype]
      split_ifs
      · exact ok nofun (.refl s)
      · exact error
  unfold mfUltralightCompositeCommandRun at h
  cases hcall : handler.callback des3 s buffer with
  | error fault =>
    rw [hcall] at h
    cases h
  | ok r =>
    have hsame := (hcallback r.1 r.2 hcall).2
    rw [hcall] at h
    cases h
    exact ⟨hsame.1, hsame.2, hsame.3, fun hinc h => (hsame.4 hinc h).congr rfl rfl rfl⟩

/-! ### PWD_AUTH -/

/-- The number of failed attempts that locks the tag. -/
def MfUltralightData.authLimit (data : MfUltralightData) : Nat :=
  if data.type = .ntagI2CPlus1K ∨ data.type = .ntagI2CPlus2K then 2 ^ data.authlim
  else data.authlim

lemma authCheckAttempts_iff (data : MfUltralightData) :
    mfUltralightAuthCheckAttempts data = true ↔ data.authLimit ≤ data.authAttempts.toNat := by
  rw [mfUltralightAuthCheckAttempts, MfUltralightData.authLimit]
  exact decide_eq_true_iff

/-- The frame is handled as PWD_AUTH, and carries the password of the tag. -/
structure MfUltralightListener.RightPassword (s : MfUltralightListener)
    (event : MfUltralightEvent) : Prop where
  frame : ∃ buffer random, event = .receivedStandardFrame buffer random ∧
    s.compositeCallback = none ∧ buffer.getSize = 5 * 8 ∧ buffer.getByte 0 = 0x1B ∧
    s.data.password = buffer.bytes 1 4

/-- The frame is handled as PWD_AUTH, with this password. -/
def MfUltralightListener.TriesPassword (s : MfUltralightListener) (event : MfUltralightEvent)
    (password : List (BitVec 8)) : Prop :=
  ∃ buffer random, event = .receivedStandardFrame buffer random ∧ s.compositeCallback = none ∧
    buffer.getSize = 5 * 8 ∧ buffer.getByte 0 = 0x1B ∧ password = buffer.bytes 1 4

lemma MfUltralightListener.RightPassword.tries {event : MfUltralightEvent}
    (h : s.RightPassword event) : s.TriesPassword event s.data.password := h.frame

/-- What an event does to the authentication. -/
inductive MfUltralightListener.AuthStep (s : MfUltralightListener) (event : MfUltralightEvent)
    (t : MfUltralightListener) : Prop
  /-- The count is kept, and the authenticated state is kept or dropped. -/
  | kept (hattempts : t.data.authAttempts = s.data.authAttempts)
      (hstate : t.authState = s.authState ∨ t.authState = .idle)
  /-- A password is accepted. -/
  | accepted (hpassword : s.RightPassword event)
      (hlimit : s.data.authlim = 0 ∧ t.data.authAttempts = s.data.authAttempts ∨
        s.data.authAttempts.toNat < s.data.authLimit ∧ t.data.authAttempts = 0)
  /-- A password is counted as a failed attempt. -/
  | rejected (hpassword : ∃ password, s.TriesPassword event password)
      (hlimit : s.data.authAttempts.toNat < s.data.authLimit)
      (hattempts : t.data.authAttempts = s.data.authAttempts + 1) (hstate : t.authState = .idle)

lemma authLimit_pos {data : MfUltralightData} (h : data.authlim ≠ 0) : 0 < data.authLimit := by
  rw [MfUltralightData.authLimit]
  split
  · exact Nat.two_pow_pos _
  · exact Nat.pos_of_ne_zero h

lemma authAttempts_succ {data : MfUltralightData}
    (h : data.authAttempts.toNat < data.authLimit) :
    (data.authAttempts + 1).toNat = data.authAttempts.toNat + 1 := by
  have hlimit : data.authLimit ≤ 2 ^ 7 := by
    have hlim : data.authlim < 8 := Nat.mod_lt _ (by decide)
    rw [MfUltralightData.authLimit]
    split
    · exact Nat.pow_le_pow_right (by decide) (Nat.le_of_lt_succ hlim)
    · omega
  have hone : (1 : BitVec 32).toNat = 1 := rfl
  rw [BitVec.toNat_add, hone]
  omega

lemma mfUltralightListenerAuthHandler_step {command : MfUltralightCommand}
    (hnone : s.compositeCallback = none) (hsize : buffer.getSize = 5 * 8)
    (hcmd : buffer.getByte 0 = 0x1B)
    (h : mfUltralightListenerAuthHandler s buffer = .ok (command, t)) :
    s.AuthStep (.receivedStandardFrame buffer random) (mfUltralightCommandPostprocess command t).2 ∧
      (mfUltralightCommandPostprocess command t).2.data.type = s.data.type ∧
        (s.ShowsText → (mfUltralightCommandPostprocess command t).2.ShowsText) := by
  rw [mfUltralightListenerAuthHandler] at h
  split at h
  · cases h
    exact ⟨.kept rfl (.inr rfl), rfl, fun h => h.congr rfl rfl rfl⟩
  split at h
  · cases h
  next password hpassword =>
  have hbytes : password = buffer.bytes 1 4 := by
    rw [BitBuffer.writeBytesMid] at hpassword
    split at hpassword
    · exact (Option.some.inj hpassword).symm
    · cases hpassword
  have hright : s.data.password = password →
      s.RightPassword (.receivedStandardFrame buffer random) := fun heq =>
    ⟨buffer, random, rfl, hnone, hsize, hcmd, heq.trans hbytes⟩
  by_cases hlim : s.data.authlim = 0
  · -- without a limit the count is not touched
    simp only [mfUltralightAuthLimitCheckAndUpdate, if_pos hlim, Bool.false_eq_true, if_false] at h
    split at h
    · cases h
      exact ⟨.kept rfl (.inr rfl), rfl, fun h => h.congr rfl rfl rfl⟩
    next hsuccess =>
    cases h
    exact ⟨.accepted (hright (by simpa using hsuccess)) (.inl ⟨hlim, rfl⟩), rfl, fun h => h.congr rfl rfl rfl⟩
  by_cases hlocked : mfUltralightAuthCheckAttempts s.data = true
  · simp only [mfUltralightAuthLimitCheckAndUpdate, if_neg hlim, if_pos hlocked, if_true] at h
    cases h
    exact ⟨.kept rfl (.inr rfl), rfl, fun h => h.congr rfl rfl rfl⟩
  have hlt : s.data.authAttempts.toNat < s.data.authLimit :=
    Nat.lt_of_not_le (mt (authCheckAttempts_iff s.data).mpr hlocked)
  simp only [mfUltralightAuthLimitCheckAndUpdate, if_neg hlim, if_neg hlocked] at h
  by_cases hsuccess : s.data.password = password
  · have hzero : ¬mfUltralightAuthCheckAttempts { s.data with authAttempts := 0 } = true := by
      rw [authCheckAttempts_iff]
      exact Nat.not_le.mpr (authLimit_pos hlim)
    simp only [hsuccess, decide_true, if_true, if_neg hzero, Bool.not_true, Bool.false_eq_true,
      if_false] at h
    cases h
    exact ⟨.accepted (hright hsuccess) (.inr ⟨hlt, rfl⟩), rfl, fun h => h.congr rfl rfl rfl⟩
  · simp only [hsuccess, decide_false, Bool.false_eq_true, if_false, Bool.not_false, if_true] at h
    split at h <;>
    · cases h
      exact ⟨.rejected ⟨_, buffer, random, rfl, hnone, hsize, hcmd, rfl⟩ hlt rfl rfl, rfl, fun h => h.congr rfl rfl rfl⟩

/-- Below the limit a wrong password is counted, and the right one starts the count again. -/
lemma mfUltralightListenerAuthHandler_counts {command : MfUltralightCommand}
    (hfeature : s.supports .passwordAuth = true) (hlim : s.data.authlim ≠ 0)
    (hlt : s.data.authAttempts.toNat < s.data.authLimit)
    (h : mfUltralightListenerAuthHandler s buffer = .ok (command, t)) :
    let u := (mfUltralightCommandPostprocess command t).2
    if s.data.password = buffer.bytes 1 4 then u.data.authAttempts = 0 ∧ u.authState = .success
    else u.data.authAttempts = s.data.authAttempts + 1 ∧ u.authState = .idle := by
  have hlocked : ¬mfUltralightAuthCheckAttempts s.data = true := by
    rw [authCheckAttempts_iff]
    exact Nat.not_le.mpr hlt
  rw [mfUltralightListenerAuthHandler, hfeature, if_neg (by decide)] at h
  split at h
  · cases h
  next password hpassword =>
  have hbytes : password = buffer.bytes 1 4 := by
    rw [BitBuffer.writeBytesMid] at hpassword
    split at hpassword
    · exact (Option.some.inj hpassword).symm
    · cases hpassword
  subst hbytes
  simp only [mfUltralightAuthLimitCheckAndUpdate, if_neg hlim, if_neg hlocked] at h
  by_cases hsuccess : s.data.password = buffer.bytes 1 4
  · have hzero : ¬mfUltralightAuthCheckAttempts { s.data with authAttempts := 0 } = true := by
      rw [authCheckAttempts_iff]
      exact Nat.not_le.mpr (authLimit_pos hlim)
    simp only [hsuccess, decide_true, if_true, if_neg hzero, Bool.not_true, Bool.false_eq_true,
      if_false] at h
    cases h
    simp only [if_pos hsuccess]
    exact ⟨rfl, rfl⟩
  · simp only [hsuccess, decide_false, Bool.false_eq_true, if_false, Bool.not_false, if_true] at h
    simp only [if_neg hsuccess]
    split at h <;>
    · cases h
      exact ⟨rfl, rfl⟩

/-! ### Steps -/

lemma mfUltralightCommandSearch_cases {handlers : List MfUltralightListenerCmdHandler}
    {command : MfUltralightCommand}
    (hfound : ∀ handler ∈ handlers, ∀ t, handler.callback s buffer ≠ .ok (.notFound, t))
    (h : mfUltralightCommandSearch s buffer handlers = .ok (command, t)) :
    (command = .notFound ∧ t = s ∧ ∀ handler ∈ handlers, buffer.getSize = handler.cmdLenBits →
      buffer.getByte 0 ≠ handler.cmd) ∨
    ∃ handler ∈ handlers, buffer.getSize = handler.cmdLenBits ∧
      buffer.getByte 0 = handler.cmd ∧ handler.callback s buffer = .ok (command, t) := by
  induction handlers with
  | nil =>
    cases h
    exact .inl ⟨rfl, rfl, nofun⟩
  | cons handler handlers ih =>
    have hrest (hskip : buffer.getSize = handler.cmdLenBits → buffer.getByte 0 ≠ handler.cmd)
        (h : mfUltralightCommandSearch s buffer handlers = .ok (command, t)) :
        (command = .notFound ∧ t = s ∧ ∀ handler' ∈ handler :: handlers,
          buffer.getSize = handler'.cmdLenBits → buffer.getByte 0 ≠ handler'.cmd) ∨
        ∃ handler' ∈ handler :: handlers,
          buffer.getSize = handler'.cmdLenBits ∧ buffer.getByte 0 = handler'.cmd ∧
            handler'.callback s buffer = .ok (command, t) := by
      rcases ih (fun handler hmem => hfound handler (List.mem_cons_of_mem _ hmem)) h with
        ⟨hcommand, hsame, hnone⟩ | ⟨handler', hmem, hcall⟩
      · exact .inl ⟨hcommand, hsame, List.forall_mem_cons.mpr ⟨hskip, hnone⟩⟩
      · exact .inr ⟨handler', List.mem_cons_of_mem _ hmem, hcall⟩
    rw [mfUltralightCommandSearch] at h
    split_ifs at h with hsize hcmd
    · exact hrest (fun heq => absurd heq hsize) h
    · exact hrest (fun _ => hcmd) h
    · cases hcall : handler.callback s buffer with
      | error fault =>
        rw [hcall] at h
        cases h
      | ok r =>
        obtain ⟨command', t'⟩ := r
        have hne : command' ≠ .notFound := by
          rintro rfl
          exact hfound handler List.mem_cons_self t' hcall
        rw [hcall] at h
        simp only [if_pos hne] at h
        cases h
        exact .inr ⟨handler, List.mem_cons_self, not_not.mp hsize, not_not.mp hcmd, hcall⟩

lemma mfUltralightCommand_auth {handler : MfUltralightListenerCmdHandler}
    (hmem : handler ∈ mfUltralightCommand des3 random) (hcmd : handler.cmd = 0x1B) :
    handler.cmdLenBits = 5 * 8 ∧ handler.callback = mfUltralightListenerAuthHandler := by
  simp only [mfUltralightCommand, List.mem_cons, List.not_mem_nil, or_false] at hmem
  rcases hmem with rfl | rfl | rfl | rfl | rfl | rfl | rfl | rfl | rfl | rfl | rfl | rfl | rfl | rfl
  all_goals first
    | exact ⟨rfl, rfl⟩
    | exact absurd hcmd (by decide)
    | exact absurd (show (0x1A : BitVec 8) = 0x1B from hcmd) (by decide)

lemma mfUltralightCommand_found : ∀ handler ∈ mfUltralightCommand des3 random, ∀ t,
    handler.callback s buffer ≠ .ok (.notFound, t) := by
  intro handler hmem t hcall
  by_cases hcmd : handler.cmd = 0x1B
  · rw [(mfUltralightCommand_auth hmem hcmd).2] at hcall
    exact (mfUltralightListenerAuthHandler_quiet _ t hcall).1 rfl
  · exact (mfUltralightCommand_sameAuth hmem hcmd _ t hcall).1 rfl

lemma AuthStep.of_sameAuth {event : MfUltralightEvent} {command : MfUltralightCommand}
    (h : s.SameAuth t) : s.AuthStep event (mfUltralightCommandPostprocess command t).2 ∧
      (mfUltralightCommandPostprocess command t).2.data.type = s.data.type ∧
        (s.supports .incCounter = false → s.ShowsText →
          (mfUltralightCommandPostprocess command t).2.ShowsText) := by
  have hshows : s.supports .incCounter = false → s.ShowsText →
      (mfUltralightCommandPostprocess command t).2.ShowsText := fun hinc hs => by
    cases command <;> exact (h.showsText hinc hs).congr rfl rfl rfl
  cases command <;> refine ⟨.kept h.authAttempts_eq ?_, h.type_eq, hshows⟩
  all_goals first
    | exact .inl h.authState_eq
    | exact .inr rfl

/-- What one event does to the authentication of a tag that is not an Ultralight C. -/
theorem mfUltralightListenerRun_authStep (htype : s.data.type ≠ .mfulC) {event : MfUltralightEvent}
    {command : NfcCommand} (h : mfUltralightListenerRun des3 s event = .ok (command, t)) :
    s.AuthStep event t ∧ t.data.type = s.data.type ∧
      (s.supports .incCounter = false → s.ShowsText → t.ShowsText) := by
  cases event with
  | receivedStandardFrame buffer random =>
    rw [mfUltralightListenerRun_frame] at h
    cases hhandled : s.handleFrame des3 buffer random with
    | error fault =>
      rw [hhandled] at h
      cases h
    | ok r =>
      obtain ⟨mfuCommand, u⟩ := r
      rw [hhandled] at h
      obtain rfl := congrArg Prod.snd (Except.ok.inj h)
      dsimp only
      rw [MfUltralightListener.handleFrame] at hhandled
      cases hcomposite : s.compositeCallback with
      | some handler =>
        rw [hcomposite] at hhandled
        exact AuthStep.of_sameAuth (mfUltralightCompositeCommandRun_sameAuth htype hhandled)
      | none =>
        rw [hcomposite] at hhandled
        rcases mfUltralightCommandSearch_cases mfUltralightCommand_found hhandled with
          ⟨hnotFound, hsame, -⟩ | ⟨handler, hmem, hsize, hcmd, hcall⟩
        · rw [hnotFound, hsame]
          exact AuthStep.of_sameAuth (.refl s)
        · by_cases hauth : handler.cmd = 0x1B
          · obtain ⟨hlen, hcallback⟩ := mfUltralightCommand_auth hmem hauth
            rw [hcallback] at hcall
            obtain ⟨hstep, htype', hshows⟩ := mfUltralightListenerAuthHandler_step hcomposite
              (hsize.trans hlen) (hcmd.trans hauth) hcall
            exact ⟨hstep, htype', fun _ => hshows⟩
          · exact AuthStep.of_sameAuth (mfUltralightCommand_sameAuth hmem hauth _ _ hcall).2
  | receivedData =>
    cases h
    exact ⟨.kept rfl (.inr rfl), rfl, fun _ h => h.congr rfl rfl rfl⟩
  | fieldOff =>
    cases h
    exact ⟨.kept rfl (.inr rfl), rfl, fun _ h => h.congr rfl rfl rfl⟩
  | halted =>
    cases h
    exact ⟨.kept rfl (.inr rfl), rfl, fun _ h => h.congr rfl rfl rfl⟩

lemma mfUltralightListenerRun_password {event : MfUltralightEvent} {command : NfcCommand}
    {password : List (BitVec 8)} (hfeature : s.supports .passwordAuth = true)
    (hlim : s.data.authlim ≠ 0) (hlt : s.data.authAttempts.toNat < s.data.authLimit)
    (htries : s.TriesPassword event password)
    (h : mfUltralightListenerRun des3 s event = .ok (command, t)) :
    if s.data.password = password then t.data.authAttempts = 0 ∧ t.authState = .success
    else t.data.authAttempts = s.data.authAttempts + 1 ∧ t.authState = .idle := by
  obtain ⟨buffer, random, rfl, hnone, hsize, hcmd, rfl⟩ := htries
  rw [mfUltralightListenerRun_frame] at h
  cases hhandled : s.handleFrame des3 buffer random with
  | error fault =>
    rw [hhandled] at h
    cases h
  | ok r =>
    obtain ⟨mfuCommand, u⟩ := r
    rw [hhandled] at h
    obtain rfl := congrArg Prod.snd (Except.ok.inj h)
    rw [MfUltralightListener.handleFrame, hnone] at hhandled
    have hauth : ⟨0x1B, 5 * 8, mfUltralightListenerAuthHandler⟩ ∈
        mfUltralightCommand des3 random := by
      simp [mfUltralightCommand]
    rcases mfUltralightCommandSearch_cases mfUltralightCommand_found hhandled with
      ⟨-, -, hskipped⟩ | ⟨handler, hmem, hlen, hcode, hcall⟩
    · exact absurd hcmd (hskipped _ hauth hsize)
    · rw [(mfUltralightCommand_auth hmem (hcode.symm.trans hcmd)).2] at hcall
      exact mfUltralightListenerAuthHandler_counts hfeature hlim hlt hcall

/-! ### Runs -/

/-- The event does not write the configuration pages. -/
def MfUltralightListener.KeepsConfig (des3 : Des3) (s : MfUltralightListener)
    (event : MfUltralightEvent) : Prop :=
  ∀ command t, mfUltralightListenerRun des3 s event = .ok (command, t) →
    ∀ i < 16, t.data.config i = s.data.config i

/-- What holds in every state of a run from the data of a tag. -/
structure MfUltralightListener.AuthInv (data : MfUltralightData) (s : MfUltralightListener) :
    Prop where
  type_eq : s.data.type = data.type
  config_eq : ∀ i < 16, s.data.config i = data.config i
  attempts : s.data.authAttempts.toNat ≤ max data.authLimit data.authAttempts.toNat
  locked : data.authLimit ≤ s.data.authAttempts.toNat → s.authState ≠ .success

namespace MfUltralightListener.AuthInv

variable {data : MfUltralightData}

lemma authlim_eq (h : s.AuthInv data) : s.data.authlim = data.authlim := by
  rw [MfUltralightData.authlim, h.config_eq 4 (by decide)]
  rfl

lemma authLimit_eq (h : s.AuthInv data) : s.data.authLimit = data.authLimit := by
  rw [MfUltralightData.authLimit, h.type_eq, h.authlim_eq]
  rfl

/-- One event keeps the invariant, and does not change a count that has reached the limit. -/
lemma step (htype : data.type ≠ .mfulC) (hlim : data.authlim ≠ 0) (hs : s.AuthInv data)
    {event : MfUltralightEvent} (hguard : s.KeepsConfig des3 event) {command : NfcCommand}
    (h : mfUltralightListenerRun des3 s event = .ok (command, t)) :
    t.AuthInv data ∧ (data.authLimit ≤ s.data.authAttempts.toNat →
      t.data.authAttempts = s.data.authAttempts) := by
  have hlimit := hs.authLimit_eq
  have hpos := authLimit_pos hlim
  obtain ⟨hstep, hteq, -⟩ := mfUltralightListenerRun_authStep (hs.type_eq ▸ htype) h
  have hconfig (i : Nat) (hi : i < 16) : t.data.config i = data.config i :=
    (hguard command t h i hi).trans (hs.config_eq i hi)
  cases hstep with
  | kept hattempts hstate =>
    refine ⟨⟨hteq.trans hs.type_eq, hconfig, ?_, fun hle => ?_⟩, fun _ => hattempts⟩
    · rw [hattempts]
      exact hs.attempts
    · rw [hattempts] at hle
      rcases hstate with hsame | hidle
      · rw [hsame]
        exact hs.locked hle
      · rw [hidle]
        nofun
  | accepted hpassword hbelow =>
    rcases hbelow with ⟨hzero, -⟩ | ⟨hlt, hzero⟩
    · exact absurd (hs.authlim_eq.symm.trans hzero) hlim
    · refine ⟨⟨hteq.trans hs.type_eq, hconfig, ?_, fun hle => ?_⟩, fun hle => by omega⟩
      · rw [hzero]
        exact Nat.zero_le _
      · rw [hzero] at hle
        exact absurd hle (Nat.not_le.mpr hpos)
  | rejected _ hlt hattempts hidle =>
    have hsucc := authAttempts_succ hlt
    refine ⟨⟨hteq.trans hs.type_eq, hconfig, ?_, fun _ => ?_⟩, fun hle => by omega⟩
    · rw [hattempts, hsucc]
      omega
    · rw [hidle]
      nofun

lemma run (htype : data.type ≠ .mfulC) (hlim : data.authlim ≠ 0) (hs : s.AuthInv data)
    (hrun : (mfUltralightSystem des3).Reaches (KeepsConfig des3) s t) :
    t.AuthInv data ∧ (data.authLimit ≤ s.data.authAttempts.toNat →
      t.data.authAttempts = s.data.authAttempts) := by
  refine hrun.invariant (I := fun t => t.AuthInv data ∧ (data.authLimit ≤
    s.data.authAttempts.toNat → t.data.authAttempts = s.data.authAttempts))
      ⟨hs, fun _ => rfl⟩ ?_
  rintro t u event ⟨ht, hsame⟩ hguard hstep
  obtain ⟨r, hr, rfl⟩ := Option.map_eq_some_iff.mp hstep
  cases hcall : mfUltralightListenerRun des3 t event with
  | error fault =>
    rw [hcall] at hr
    cases hr
  | ok r' =>
    rw [hcall] at hr
    obtain rfl := Option.some.inj hr
    obtain ⟨hu, hkept⟩ := ht.step htype hlim hguard hcall
    exact ⟨hu, fun hle => (hkept (hsame hle ▸ hle)).trans (hsame hle)⟩

end MfUltralightListener.AuthInv

/-- The law of the limit in a state of a run. -/
structure MfUltralightListener.AuthLaw (des3 : Des3) (data : MfUltralightData)
    (s : MfUltralightListener) : Prop where
  /-- The count never passes the limit, unless the tag has been loaded with a higher one. -/
  attempts : s.data.authAttempts.toNat ≤ max data.authLimit data.authAttempts.toNat
  /-- The authenticated state is entered by the right password, below the limit. -/
  entered : ∀ event command t, mfUltralightListenerRun des3 s event = .ok (command, t) →
    s.authState ≠ .success → t.authState = .success →
      s.RightPassword event ∧ s.data.authAttempts.toNat < data.authLimit
  /-- Below the limit a wrong password is counted. -/
  wrong : ∀ event command t password, mfUltralightListenerRun des3 s event = .ok (command, t) →
    s.TriesPassword event password → s.data.password ≠ password →
    s.data.authAttempts.toNat < data.authLimit →
      t.data.authAttempts.toNat = s.data.authAttempts.toNat + 1 ∧ t.authState = .idle
  /-- Below the limit the right password starts the count again. -/
  right : ∀ event command t, mfUltralightListenerRun des3 s event = .ok (command, t) →
    s.TriesPassword event s.data.password → s.data.authAttempts.toNat < data.authLimit →
      t.data.authAttempts = 0 ∧ t.authState = .success
  /-- Nothing but PWD_AUTH changes the count. -/
  others : ∀ event command t, mfUltralightListenerRun des3 s event = .ok (command, t) →
    (∀ password, ¬s.TriesPassword event password) → t.data.authAttempts = s.data.authAttempts
  /-- At the limit the count stays, and no password is accepted. -/
  locked : data.authLimit ≤ s.data.authAttempts.toNat → ∀ t,
    (mfUltralightSystem des3).Reaches (KeepsConfig des3) s t →
      t.data.authAttempts = s.data.authAttempts ∧ t.authState ≠ .success

/-- The law of the limit holds along every run that does not write the configuration. -/
theorem mfUltralightListener_authLaw (des3 : Des3) (data : MfUltralightData)
    (hpassword : mfUltralightSupportFeature (mfUltralightGetFeatureSupportSet data.type)
      .passwordAuth = true) (hlim : data.authlim ≠ 0)
    (hrun : (mfUltralightSystem des3).Reaches (MfUltralightListener.KeepsConfig des3)
      (mfUltralightListenerAlloc data) s) : s.AuthLaw des3 data := by
  have htype : data.type ≠ .mfulC := by
    intro heq
    rw [heq] at hpassword
    exact absurd hpassword (by decide)
  have hinit : (mfUltralightListenerAlloc data).AuthInv data :=
    ⟨rfl, fun _ _ => rfl, Nat.le_max_right _ _, by rintro - ⟨⟩⟩
  have hs := (hinit.run htype hlim hrun).1
  have hfeature : s.supports .passwordAuth = true := by
    rw [MfUltralightListener.supports, hs.type_eq]
    exact hpassword
  have hcounts {event : MfUltralightEvent} {command : NfcCommand} {t : MfUltralightListener}
      {password : List (BitVec 8)} (h : mfUltralightListenerRun des3 s event = .ok (command, t))
      (htries : s.TriesPassword event password)
      (hlt : s.data.authAttempts.toNat < data.authLimit) :=
    mfUltralightListenerRun_password hfeature (hs.authlim_eq.trans_ne hlim)
      (hs.authLimit_eq.symm ▸ hlt) htries h
  refine ⟨hs.attempts, fun event command t h hnot hsuccess => ?_,
    fun event command t password h htries hne hlt => ?_, fun event command t h htries hlt => ?_,
    fun event command t h hnone => ?_, fun hle t ht => ?_⟩
  · obtain ⟨hstep, -⟩ := mfUltralightListenerRun_authStep (hs.type_eq ▸ htype) h
    cases hstep with
    | kept hattempts hstate =>
      rcases hstate with hsame | hidle
      · exact absurd (hsame.symm.trans hsuccess) hnot
      · cases hidle.symm.trans hsuccess
    | accepted hpassword hbelow =>
      rcases hbelow with ⟨hzero, -⟩ | ⟨hlt, -⟩
      · exact absurd (hs.authlim_eq.symm.trans hzero) hlim
      · exact ⟨hpassword, hs.authLimit_eq ▸ hlt⟩
    | rejected _ hlt hattempts hidle => cases hidle.symm.trans hsuccess
  · have hcount := hcounts h htries hlt
    rw [if_neg hne] at hcount
    rw [hcount.1, authAttempts_succ (hs.authLimit_eq.symm ▸ hlt)]
    exact ⟨rfl, hcount.2⟩
  · have hcount := hcounts h htries hlt
    rwa [if_pos rfl] at hcount
  · obtain ⟨hstep, -⟩ := mfUltralightListenerRun_authStep (hs.type_eq ▸ htype) h
    cases hstep with
    | kept hattempts hstate => exact hattempts
    | accepted hright _     => exact absurd hright.tries (hnone _)
    | rejected htries       =>
      obtain ⟨password, htries⟩ := htries
      exact absurd htries (hnone password)
  · obtain ⟨hinv, hsame⟩ := hs.run htype hlim ht
    exact ⟨hsame hle, hinv.locked (hsame hle ▸ hle)⟩

/-- An NTAG213 with a limit of three attempts and a count. -/
def mfUltralightLimited (authAttempts : BitVec 32) : MfUltralightData :=
  { mfUltralightBlank .ntag213 with
    page := Function.update (fun _ => 0) (4 * 41 + 4) 0x03
    authAttempts }

instance (s : MfUltralightListener) (event : MfUltralightEvent) :
    Decidable (s.KeepsConfig des3 event) :=
  match h : mfUltralightListenerRun des3 s event with
  | .error fault      => .isTrue fun command t heq => by rw [h] at heq; cases heq
  | .ok (command, t') => decidable_of_iff (∀ i < 16, t'.data.config i = s.data.config i)
    ⟨fun hkeeps command t heq => by rw [h] at heq; cases heq; exact hkeeps,
      fun hkeeps => hkeeps command t' h⟩

def mfUltralightWrongPassword : MfUltralightEvent := mfUltralightFrame [0x1B, 1, 2, 3, 4]
def mfUltralightRightPassword : MfUltralightEvent := mfUltralightFrame [0x1B, 0, 0, 0, 0]

lemma mfUltralightAttempts_replay :
    ((mfUltralightSystem idleDes3).replay (MfUltralightListener.KeepsConfig idleDes3)
      (mfUltralightListenerAlloc (mfUltralightLimited 2))
      [mfUltralightWrongPassword, mfUltralightRightPassword]).map
        (fun s => (s.data.authAttempts, s.authState)) = some (3, .idle) ∧
    ((mfUltralightSystem idleDes3).replay (MfUltralightListener.KeepsConfig idleDes3)
      (mfUltralightListenerAlloc (mfUltralightLimited 2))
      [mfUltralightRightPassword, .fieldOff, mfUltralightWrongPassword]).map
        (fun s => (s.data.authAttempts, s.authState)) = some (1, .idle) := by
  decide +kernel

/-- With two attempts recorded, a wrong password locks the tag for the right one behind it; the right
one in front starts the count again. -/
theorem mfUltralightListener_authLaw_attempts : ∃ s t : MfUltralightListener,
    s.data.authAttempts = 3 ∧ s.authState = .idle ∧
      s.AuthLaw idleDes3 (mfUltralightLimited 2) ∧
    t.data.authAttempts = 1 ∧ t.AuthLaw idleDes3 (mfUltralightLimited 2) := by
  obtain ⟨s, hs, hattempts⟩ := Option.map_eq_some_iff.mp mfUltralightAttempts_replay.1
  obtain ⟨t, ht, hattempts'⟩ := Option.map_eq_some_iff.mp mfUltralightAttempts_replay.2
  exact ⟨s, t, congrArg Prod.fst hattempts, congrArg Prod.snd hattempts,
    mfUltralightListener_authLaw idleDes3 (mfUltralightLimited 2) (by decide) (by decide)
      (.of_replay .refl hs),
    congrArg Prod.fst hattempts', mfUltralightListener_authLaw idleDes3 (mfUltralightLimited 2)
      (by decide) (by decide) (.of_replay .refl ht)⟩

/-- A tag can be loaded with a count above its limit. -/
theorem mfUltralightListener_loadedAboveLimit :
    ¬∀ (des3 : Des3) (data : MfUltralightData), mfUltralightSupportFeature
      (mfUltralightGetFeatureSupportSet data.type) .passwordAuth = true → data.authlim ≠ 0 →
        ∀ s, (mfUltralightSystem des3).Reaches (MfUltralightListener.KeepsConfig des3)
          (mfUltralightListenerAlloc data) s → s.data.authAttempts.toNat ≤ data.authLimit := by
  intro h
  have hle := h idleDes3 (mfUltralightLimited 9) (by decide) (by decide) _ .refl
  exact absurd hle (by decide)

end FlipperZero
