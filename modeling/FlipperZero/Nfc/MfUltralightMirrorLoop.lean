import FlipperZero.Nfc.MfUltralightAuth

/-!
# The loop that places the mirror

`mf_ultralight_mirror_check_boundaries` tries the mirror of the UID where the one of the UID and
the counter does not fit. Its flag is raised on the way and never lowered: when the UID does not
fit either, the loop goes on for ever. Every READ and FAST_READ places the mirror again.
-/

namespace FlipperZero

open Foundation

variable {s t : MfUltralightListener} {buffer : BitBuffer} {des3 : Des3}
  {random : List (BitVec 8)}

/-- `MfUltralightTypeNTAG213`, `MfUltralightTypeNTAG215` and `MfUltralightTypeNTAG216`. -/
def MfUltralightType.IsNtag21x (type : MfUltralightType) : Prop :=
  type = .ntag213 ∨ type = .ntag215 ∨ type = .ntag216

/-! ### The loop -/

def mfUltralightLastUserPage (type : MfUltralightType) : Nat :=
  (mfUltralightGetConfigPageNum type + 254) % 256

/-- The mirror of the UID and the counter is set, and begins so close to the end of the user
memory that not even the UID fits. -/
def MfUltralightListener.MirrorRunsOver (s : MfUltralightListener) : Prop :=
  mfUltralightMirrorCheckMode s.data s.authState = .uidCounter ∧
    mfUltralightLastUserPage s.data.type < s.data.mirrorPage + 3

instance : Decidable s.MirrorRunsOver := inferInstanceAs (Decidable (_ ∧ _))

/-- The variables of the loop at its beginning. -/
def MfUltralightListener.mirrorScan (s : MfUltralightListener) : MfUltralightMirrorScan :=
  ⟨mfUltralightMirrorCheckMode s.data s.authState, 2, false, s.mirror.actualMode⟩

/-- Once the UID has been tried without success, every further round is the same. -/
lemma mirrorCheckRound_stuck {data : MfUltralightData} {lastUserPage maxByteOffset : Nat}
    {actualMode : MfUltralightMirrorConf} (hlow : 3 < data.mirrorPage)
    (hpage : lastUserPage < data.mirrorPage + 3) :
    mfUltralightMirrorCheckRound data lastUserPage ⟨.uid, maxByteOffset, true, actualMode⟩ =
      .again ⟨.uid, maxByteOffset, true, .uid⟩ := by
  simp only [mfUltralightMirrorCheckRound, reduceCtorEq, if_false, if_true]
  rw [if_neg (by omega), if_neg (by omega), if_neg (by omega)]

lemma mirrorCheckRound_uid {data : MfUltralightData} {lastUserPage maxByteOffset : Nat} {again : Bool}
    {actualMode : MfUltralightMirrorConf}
    (h : again = false ∨ data.mirrorPage + 3 ≤ lastUserPage) : ∃ result,
      mfUltralightMirrorCheckRound data lastUserPage ⟨.uid, maxByteOffset, again, actualMode⟩ =
        .leave result := by
  simp only [mfUltralightMirrorCheckRound, reduceCtorEq, if_false]
  split_ifs with hlow hlt heq hagain
  · exact ⟨_, rfl⟩
  · exact ⟨_, rfl⟩
  · exact ⟨_, rfl⟩
  · rcases h with hfalse | hfits
    · exact absurd (hfalse.symm.trans hagain) Bool.false_ne_true
    · omega
  · exact ⟨_, rfl⟩

lemma mirrorCheckBoundaries_ends (h : ¬s.MirrorRunsOver) :
    mfUltralightMirrorCheckBoundaries s ≠ none := by
  rw [MfUltralightListener.MirrorRunsOver, mfUltralightLastUserPage] at h
  rw [mfUltralightMirrorCheckBoundaries]
  generalize (mfUltralightGetConfigPageNum s.data.type + 254) % 256 = lastUserPage at h ⊢
  have hleave {n : Nat} {scan : MfUltralightMirrorScan}
      (hround : ∃ result, mfUltralightMirrorCheckRound s.data lastUserPage scan = .leave result) :
      loop (mfUltralightMirrorCheckRound s.data lastUserPage) (n + 1) scan ≠ none := by
    obtain ⟨result, hround⟩ := hround
    rw [loop_leave hround]
    exact Option.some_ne_none _
  cases hmode : mfUltralightMirrorCheckMode s.data s.authState with
  | none => exact hleave ⟨_, rfl⟩
  | uid => exact hleave (mirrorCheckRound_uid (.inl rfl))
  | counter =>
    refine hleave ?_
    simp only [mfUltralightMirrorCheckRound, reduceCtorEq, if_false, Bool.false_eq_true]
    split_ifs <;> exact ⟨_, rfl⟩
  | uidCounter =>
    have hfits : s.data.mirrorPage + 3 ≤ lastUserPage :=
      Nat.not_lt.mp fun hlt => h ⟨hmode, hlt⟩
    by_cases hround : ∃ result, mfUltralightMirrorCheckRound s.data lastUserPage
        ⟨.uidCounter, 2, false, s.mirror.actualMode⟩ = .leave result
    · exact hleave hround
    · have hagain : mfUltralightMirrorCheckRound s.data lastUserPage
          ⟨.uidCounter, 2, false, s.mirror.actualMode⟩ = .again ⟨.uid, 3, true, .uidCounter⟩ := by
        simp only [mfUltralightMirrorCheckRound, reduceCtorEq, if_false, if_true] at hround ⊢
        split_ifs at hround ⊢
        · exact absurd ⟨_, rfl⟩ hround
        · exact absurd ⟨_, rfl⟩ hround
        · exact absurd ⟨_, rfl⟩ hround
        · rfl
      rw [loop_again hagain]
      exact hleave (mirrorCheckRound_uid (.inr hfits))

/-- The loop is not left in any number of rounds when the mirror runs over. -/
theorem mirrorCheckRound_never (hlast : 8 ≤ mfUltralightLastUserPage s.data.type)
    (h : s.MirrorRunsOver) (n : Nat) :
    loop (mfUltralightMirrorCheckRound s.data (mfUltralightLastUserPage s.data.type)) n
      s.mirrorScan = none := by
  obtain ⟨hmode, hpage⟩ := h
  have hlow : 3 < s.data.mirrorPage := by omega
  have hstuck (n maxByteOffset : Nat) (actualMode : MfUltralightMirrorConf) :
      loop (mfUltralightMirrorCheckRound s.data (mfUltralightLastUserPage s.data.type)) n
        ⟨.uid, maxByteOffset, true, actualMode⟩ = none := by
    induction n generalizing actualMode with
    | zero => rfl
    | succ n ih =>
      rw [loop_again (mirrorCheckRound_stuck hlow hpage)]
      exact ih _
  cases n with
  | zero => rfl
  | succ n =>
    have hfirst : mfUltralightMirrorCheckRound s.data (mfUltralightLastUserPage s.data.type)
        s.mirrorScan = .again ⟨.uid, 3, true, .uidCounter⟩ := by
      simp only [MfUltralightListener.mirrorScan, hmode, mfUltralightMirrorCheckRound, reduceCtorEq,
        if_false, if_true]
      rw [if_neg (by omega), if_neg (by omega), if_neg (by omega)]
    rw [loop_again hfirst]
    exact hstuck n _ _

/-! ### Frames -/

/-- The frame is a READ or a FAST_READ that passes its checks, so that pages are read. -/
def MfUltralightListener.ReadsPages (s : MfUltralightListener) : MfUltralightEvent → Prop
  | .receivedStandardFrame buffer _ => s.compositeCallback = none ∧
      (buffer.getSize = 2 * 8 ∧ buffer.getByte 0 = 0x30 ∧
          mfUltralightRefusesRead s (buffer.getByte 1).toNat = false ∨
        buffer.getSize = 3 * 8 ∧ buffer.getByte 0 = 0x3A ∧ s.supports .fastRead = true ∧
          mfUltralightRefusesFastRead s (buffer.getByte 1).toNat (buffer.getByte 2).toNat = false)
  | _ => False

/-- The processing of an event ends: the loop of the mirror is left when it is got to. A FAST_READ
of more pages than its array holds places the mirror before it writes behind the array. -/
def MfUltralightListener.Terminates (des3 : Des3) (s : MfUltralightListener)
    (event : MfUltralightEvent) : Prop :=
  mfUltralightListenerRun des3 s event ≠ .error .mirrorLoop ∧
    (mfUltralightListenerRun des3 s event = .error .pagesOverflow →
      mfUltralightMirrorCheckBoundaries s ≠ none)

lemma readPrepare_error {startPage : Nat} {fault : MfUltralightFault}
    (h : mfUltralightMirrorReadPrepare startPage s = .error fault) :
    fault = .mirrorLoop ∧ mfUltralightMirrorCheckBoundaries s = none := by
  rw [mfUltralightMirrorReadPrepare, mfUltralightMirrorEnabled] at h
  split_ifs at h with hmirror
  · cases hbounds : mfUltralightMirrorCheckBoundaries s with
    | none =>
      rw [hbounds] at h
      cases h
      exact ⟨rfl, rfl⟩
    | some result =>
      obtain ⟨enabled, actualMode⟩ := result
      rw [hbounds] at h
      cases enabled <;> cases h

lemma readPrepare_stuck {startPage : Nat} (hmirror : s.supports .asciiMirror = true)
    (hbounds : mfUltralightMirrorCheckBoundaries s = none) :
    mfUltralightMirrorReadPrepare startPage s = .error .mirrorLoop := by
  rw [mfUltralightMirrorReadPrepare, mfUltralightMirrorEnabled,
    if_pos (by simp [hmirror, configPage_of_mirror hmirror]), hbounds]

lemma error_of_seen {r : MfUltralightHandled} {fault : MfUltralightFault} :
    r.seen = .error fault ↔ r = .error fault := by
  cases r with
  | error fault' => simp [MfUltralightHandled.seen, Except.map]
  | ok result => simp [MfUltralightHandled.seen, Except.map]

lemma sendPages_error {startPage pageCnt : Nat} {fault : MfUltralightFault} :
    mfUltralightSendPages s startPage pageCnt = .error fault ↔
      mfUltralightMirrorReadPrepare startPage s = .error fault := by
  rw [mfUltralightSendPages]
  cases mfUltralightMirrorReadPrepare startPage s <;> simp [Except.map]

/-- A fault that is not a failed check. -/
def MfUltralightFault.Runs (fault : MfUltralightFault) : Prop := fault ≠ .furiCheck

lemma mfUltralightCommand_reads {handler : MfUltralightListenerCmdHandler}
    (hmem : handler ∈ mfUltralightCommand des3 random) (hnone : s.compositeCallback = none)
    (hsize : buffer.getSize = handler.cmdLenBits) (hcmd : buffer.getByte 0 = handler.cmd)
    {fault : MfUltralightFault} (hfault : fault.Runs)
    (h : handler.callback s buffer = .error fault) :
    s.ReadsPages (.receivedStandardFrame buffer random) ∧
      (fault = .mirrorLoop → mfUltralightMirrorCheckBoundaries s = none) := by
  simp only [mfUltralightCommand, List.mem_cons, List.not_mem_nil, or_false] at hmem
  rcases hmem with rfl | rfl | rfl | rfl | rfl | rfl | rfl | rfl | rfl | rfl | rfl | rfl | rfl | rfl
  · have hseen := error_of_seen.mpr h
    rw [readPageHandler_seen] at hseen
    split at hseen
    · cases hseen
    next hrefuses =>
    exact ⟨⟨hnone, .inl ⟨hsize, hcmd, Bool.eq_false_iff.mpr hrefuses⟩⟩,
      fun _ => (readPrepare_error (sendPages_error.mp hseen)).2⟩
  · have hseen := error_of_seen.mpr h
    rw [fastReadHandler_seen] at hseen
    split at hseen
    · cases hseen
    next hfast =>
    split at hseen
    · cases hseen
    next hrefuses =>
    refine ⟨⟨hnone, .inr ⟨hsize, hcmd, by simpa using hfast, Bool.eq_false_iff.mpr hrefuses⟩⟩, ?_⟩
    rintro rfl
    split at hseen
    · cases hseen
    · exact (readPrepare_error (sendPages_error.mp hseen)).2
  · dsimp only [mfUltralightListenerWritePageHandler] at h
    split_ifs at h
  · dsimp only [mfUltralightListenerFastWriteHandler] at h
    split_ifs at h
  · dsimp only [mfUltralightListenerReadVersionHandler] at h
    split_ifs at h
  · dsimp only [mfUltralightListenerReadSignatureHandler] at h
    split_ifs at h
  · dsimp only [mfUltralightListenerReadCounterHandler] at h
    split_ifs at h
  · dsimp only [mfUltralightListenerCheckTearingHandler] at h
    split_ifs at h
  · dsimp only [mfUltralightListenerAuthHandler] at h
    split_ifs at h
    split at h
    · cases h
      exact absurd rfl hfault
    · split_ifs at h
  · dsimp only [mfUltralightListenerIncreaseCounterHandler] at h
    split_ifs at h
    split at h
    · cases h
      exact absurd rfl hfault
    · split_ifs at h
  · dsimp only [mfUltralightSectorSelectHandlerP1] at h
    split_ifs at h
  · dsimp only [mfUltralightCompWriteHandlerP1] at h
    split_ifs at h
  · dsimp only [mfUltralightListenerVcslHandler] at h
    split_ifs at h
  · dsimp only [mfUltralightCAuthenticateHandlerP1] at h
    split_ifs at h
    cases h
    exact absurd rfl hfault

lemma mfUltralightCommandSearch_error {handlers : List MfUltralightListenerCmdHandler}
    {fault : MfUltralightFault}
    (hfound : ∀ handler ∈ handlers, ∀ t, handler.callback s buffer ≠ .ok (.notFound, t))
    (h : mfUltralightCommandSearch s buffer handlers = .error fault) :
    ∃ handler ∈ handlers, buffer.getSize = handler.cmdLenBits ∧
      buffer.getByte 0 = handler.cmd ∧ handler.callback s buffer = .error fault := by
  induction handlers with
  | nil => cases h
  | cons handler handlers ih =>
    have hrest (h : mfUltralightCommandSearch s buffer handlers = .error fault) :
        ∃ handler' ∈ handler :: handlers, buffer.getSize = handler'.cmdLenBits ∧
          buffer.getByte 0 = handler'.cmd ∧ handler'.callback s buffer = .error fault := by
      obtain ⟨handler', hmem, hcall⟩ :=
        ih (fun handler hmem => hfound handler (List.mem_cons_of_mem _ hmem)) h
      exact ⟨handler', List.mem_cons_of_mem _ hmem, hcall⟩
    rw [mfUltralightCommandSearch] at h
    split_ifs at h with hsize hcmd
    · exact hrest h
    · exact hrest h
    · cases hcall : handler.callback s buffer with
      | error fault' =>
        rw [hcall] at h
        cases h
        exact ⟨handler, List.mem_cons_self, not_not.mp hsize, not_not.mp hcmd, hcall⟩
      | ok r =>
        obtain ⟨command, t⟩ := r
        have hne : command ≠ .notFound := by
          rintro rfl
          exact hfound handler List.mem_cons_self t hcall
        rw [hcall] at h
        simp only [if_pos hne] at h
        cases h

lemma mfUltralightCompositeCommandRun_error {handler : MfUltralightCompositeHandler}
    {fault : MfUltralightFault}
    (h : mfUltralightCompositeCommandRun des3 handler s buffer = .error fault) :
    fault = .furiCheck := by
  have hcallback : handler.callback des3 s buffer = .error fault := by
    rw [mfUltralightCompositeCommandRun] at h
    cases hcall : handler.callback des3 s buffer with
    | error fault' =>
      rw [hcall] at h
      exact h
    | ok r =>
      rw [hcall] at h
      cases h
  cases handler with
  | compWriteP2 =>
    change mfUltralightCompWriteHandlerP2 s buffer = .error fault at hcallback
    rw [mfUltralightCompWriteHandlerP2] at hcallback
    split_ifs at hcallback
  | sectorSelectP2 =>
    change mfUltralightSectorSelectHandlerP2 s buffer = .error fault at hcallback
    rw [mfUltralightSectorSelectHandlerP2] at hcallback
    split_ifs at hcallback
  | cAuthenticateP2 =>
    change mfUltralightCAuthenticateHandlerP2 des3 s buffer = .error fault at hcallback
    unfold mfUltralightCAuthenticateHandlerP2 at hcallback
    split_ifs at hcallback
    · cases hcallback
      rfl

lemma mfUltralightListenerRun_reads {event : MfUltralightEvent} (fault : MfUltralightFault)
    (hfault : fault.Runs) (h : mfUltralightListenerRun des3 s event = .error fault) :
    s.ReadsPages event ∧ (fault = .mirrorLoop → mfUltralightMirrorCheckBoundaries s = none) := by
  cases event with
  | receivedStandardFrame buffer random =>
    have hhandled : s.handleFrame des3 buffer random = .error fault := by
      rw [mfUltralightListenerRun_frame] at h
      cases hcall : s.handleFrame des3 buffer random with
      | error fault' =>
        rw [hcall] at h
        cases h
        rfl
      | ok r =>
        rw [hcall] at h
        cases h
    rw [MfUltralightListener.handleFrame] at hhandled
    cases hcomposite : s.compositeCallback with
    | some handler =>
      rw [hcomposite] at hhandled
      exact absurd (mfUltralightCompositeCommandRun_error hhandled) hfault
    | none =>
      rw [hcomposite] at hhandled
      obtain ⟨handler, hmem, hsize, hcmd, hcall⟩ := mfUltralightCommandSearch_error
        mfUltralightCommand_found hhandled
      exact mfUltralightCommand_reads hmem hcomposite hsize hcmd hfault hcall
  | receivedData => cases h
  | fieldOff => cases h
  | halted => cases h

variable (des3) in
lemma mfUltralightListenerRun_stuck {event : MfUltralightEvent}
    (hmirror : s.supports .asciiMirror = true)
    (hbounds : mfUltralightMirrorCheckBoundaries s = none) (hreads : s.ReadsPages event) :
    mfUltralightListenerRun des3 s event = .error .mirrorLoop ∨
      mfUltralightListenerRun des3 s event = .error .pagesOverflow := by
  cases event with
  | receivedStandardFrame buffer random =>
    obtain ⟨hnone, hframe⟩ := hreads
    have hstuck (startPage pageCnt : Nat) :
        mfUltralightSendPages s startPage pageCnt = .error .mirrorLoop :=
      sendPages_error.mpr (readPrepare_stuck hmirror hbounds)
    have hhandled : s.handleFrame des3 buffer random = .error .mirrorLoop ∨
        s.handleFrame des3 buffer random = .error .pagesOverflow := by
      rw [MfUltralightListener.handleFrame, hnone]
      simp only [mfUltralightCommand]
      rcases hframe with ⟨hsize, hcmd, hrefuses⟩ | ⟨hsize, hcmd, hfast, hrefuses⟩
      · have hread : mfUltralightListenerReadPageHandler s buffer = .error .mirrorLoop := by
          rw [← error_of_seen, readPageHandler_seen, hrefuses, if_neg Bool.false_ne_true, hstuck]
        rw [mfUltralightCommandSearch, if_neg (not_not.mpr hsize), if_neg (not_not.mpr hcmd)]
        simp [hread]
      · have hread : mfUltralightListenerFastReadHandler s buffer = .error .mirrorLoop ∨
            mfUltralightListenerFastReadHandler s buffer = .error .pagesOverflow := by
          rw [← error_of_seen, ← error_of_seen, fastReadHandler_seen, hfast, hrefuses]
          simp only [Bool.not_true, Bool.false_eq_true, if_false, hstuck]
          split
          · exact .inr rfl
          · exact .inl rfl
        rw [mfUltralightCommandSearch, if_pos (by rw [hsize]; decide), mfUltralightCommandSearch,
          if_neg (not_not.mpr hsize), if_neg (not_not.mpr hcmd)]
        rcases hread with hread | hread
        · simp [hread]
        · simp [hread]
    rw [mfUltralightListenerRun_frame]
    rcases hhandled with hhandled | hhandled
    · rw [hhandled]
      exact .inl rfl
    · rw [hhandled]
      exact .inr rfl
  | receivedData => exact hreads.elim
  | fieldOff => exact hreads.elim
  | halted => exact hreads.elim

lemma mfUltralightSystem_type {data : MfUltralightData} (htype : data.type ≠ .mfulC)
    (hrun : (mfUltralightSystem des3).Reaches (fun _ _ => True) (mfUltralightListenerAlloc data) s) :
    s.data.type = data.type := by
  refine hrun.invariant (I := fun s => s.data.type = data.type) rfl ?_
  intro t u event ht _ hstep
  obtain ⟨r, hr, rfl⟩ := Option.map_eq_some_iff.mp hstep
  cases hcall : mfUltralightListenerRun des3 t event with
  | error fault =>
    rw [hcall] at hr
    cases hr
  | ok r' =>
    rw [hcall] at hr
    obtain rfl := Option.some.inj hr
    exact (mfUltralightListenerRun_authStep (ht ▸ htype) hcall).2.1.trans ht

/-- In every state that a reader can bring an NTAG21x to, the processing of a frame ends exactly
when it does not read pages or the mirror does not run over. -/
theorem mfUltralightListenerRun_terminates_iff (des3 : Des3) (data : MfUltralightData)
    (htype : data.type.IsNtag21x) {s : MfUltralightListener}
    (hrun : (mfUltralightSystem des3).Reaches (fun _ _ => True) (mfUltralightListenerAlloc data) s)
    (event : MfUltralightEvent) :
    s.Terminates des3 event ↔ ¬(s.ReadsPages event ∧ s.MirrorRunsOver) := by
  have htag : s.data.type.IsNtag21x := by
    have hne : data.type ≠ .mfulC := by
      rintro heq
      rcases htype with h | h | h <;> exact absurd (heq.symm.trans h) (by decide)
    exact mfUltralightSystem_type hne hrun ▸ htype
  have hmirror : s.supports .asciiMirror = true := by
    rw [MfUltralightListener.supports]
    rcases htag with h | h | h <;> rw [h] <;> decide
  have hlast : 8 ≤ mfUltralightLastUserPage s.data.type := by
    rcases htag with h | h | h <;> rw [h] <;> decide
  constructor
  · rintro ⟨hloop, hoverflow⟩ ⟨hreads, hover⟩
    have hbounds : mfUltralightMirrorCheckBoundaries s = none :=
      mirrorCheckRound_never hlast hover 3
    rcases mfUltralightListenerRun_stuck des3 hmirror hbounds hreads with h | h
    · exact hloop h
    · exact hoverflow h hbounds
  · intro h
    refine ⟨fun hloop => ?_, fun hoverflow hbounds => ?_⟩
    · obtain ⟨hreads, hbounds⟩ := mfUltralightListenerRun_reads .mirrorLoop (fun h => by cases h) hloop
      exact mirrorCheckBoundaries_ends (fun hover => h ⟨hreads, hover⟩) (hbounds rfl)
    · obtain ⟨hreads, -⟩ := mfUltralightListenerRun_reads .pagesOverflow (fun h => by cases h) hoverflow
      exact mirrorCheckBoundaries_ends (fun hover => h ⟨hreads, hover⟩) hbounds

/-- An NTAG213 with the mirror of the UID and the counter on page 39, the last user page, and the
counter enabled. -/
def mfUltralightMirrored : MfUltralightData :=
  { mfUltralightBlank .ntag213 with
    page := Function.update (Function.update (Function.update (fun _ => 0)
      (4 * 41) 0xC0) (4 * 41 + 2) 39) (4 * 41 + 4) 0x10 }

theorem mfUltralightListenerRun_terminates_iff_mirrored :
    (mfUltralightListenerAlloc mfUltralightMirrored).Terminates idleDes3
        (mfUltralightFrame [0x30, 0x00]) ↔
      ¬((mfUltralightListenerAlloc mfUltralightMirrored).ReadsPages
          (mfUltralightFrame [0x30, 0x00]) ∧
        (mfUltralightListenerAlloc mfUltralightMirrored).MirrorRunsOver) :=
  mfUltralightListenerRun_terminates_iff idleDes3 mfUltralightMirrored (.inl rfl) .refl _

/-- The processing of its first READ does not end. -/
theorem mfUltralightListenerRun_notTerminating :
    ¬∀ (des3 : Des3) (data : MfUltralightData), data.type.IsNtag21x → ∀ s,
      (mfUltralightSystem des3).Reaches (fun _ _ => True) (mfUltralightListenerAlloc data) s →
        ∀ event, s.Terminates des3 event := by
  intro h
  obtain ⟨hloop, hoverflow⟩ := h idleDes3 mfUltralightMirrored (.inl rfl) _ .refl
    (mfUltralightFrame [0x30, 0x00])
  have hover : (mfUltralightListenerAlloc mfUltralightMirrored).MirrorRunsOver := by
    decide +kernel
  have hreads : (mfUltralightListenerAlloc mfUltralightMirrored).ReadsPages
      (mfUltralightFrame [0x30, 0x00]) := ⟨rfl, .inl ⟨rfl, rfl, by decide +kernel⟩⟩
  have hbounds : mfUltralightMirrorCheckBoundaries
      (mfUltralightListenerAlloc mfUltralightMirrored) = none :=
    mirrorCheckRound_never (by decide) hover 3
  rcases mfUltralightListenerRun_stuck idleDes3 (by decide) hbounds hreads with hr | hr
  · exact hloop hr
  · exact hoverflow hr hbounds

end FlipperZero
