import FlipperZero.Nfc.Iso15693Memory

/-!
# Sessions with the ISO15693-3 listener

Which requests the listener answers, and when: a card that was told to stay quiet, requests that
are addressed to another card, and write requests whose answer waits for an EOF.

The test of a quiet card is turned round: the card ignores what is addressed to it and takes up
what is not. An answer that waits is lost, since every reception clears the transmit buffer, and
the flag that makes it wait is still set for the requests that follow.
-/

namespace FlipperZero

open Foundation

/-! ### What a handler does to the session -/

/-- The commands that write or lock something. -/
def iso15693_3WriteCommands : List (BitVec 8) := [0x21, 0x22, 0x24, 0x27, 0x28, 0x29, 0x2A]

namespace Iso15693_3Listener

def stateAfter (state : Iso15693_3ListenerState) (flags command : BitVec 8) :
    Iso15693_3ListenerState :=
  if command = 0x02 then .quiet
  else if command = 0x25 ∧ flags.getLsbD 5 then .selected
  else if command = 0x26 then .ready
  else state

/-- The second listener is in the state and in the session of the first. -/
structure SameSession (l l' : Iso15693_3Listener) : Prop where
  state : l'.state = l.state
  sessionState : l'.sessionState = l.sessionState

variable {l l' : Iso15693_3Listener} {data : Memory} {dataSize : Nat} {flags : BitVec 8}
  {error : Iso15693_3Error} {i : Nat}

namespace SameSession

protected lemma refl (l : Iso15693_3Listener) : SameSession l l := ⟨rfl, rfl⟩

protected lemma trans {l'' : Iso15693_3Listener} (h : SameSession l l')
    (h' : SameSession l' l'') : SameSession l l'' :=
  ⟨h'.state.trans h.state, h'.sessionState.trans h.sessionState⟩

lemma append {bytes : List (BitVec 8)} (h : l.append bytes = some l') : SameSession l l' := by
  unfold Iso15693_3Listener.append at h
  split_ifs at h
  cases h
  exact ⟨rfl, rfl⟩

lemma cget {array : SimpleArray} {index size : Nat}
    (h : (array.cget index size).bind l.append = some l') : SameSession l l' := by
  obtain ⟨bytes, -, happend⟩ := Option.bind_eq_some_iff.mp h
  exact append happend

lemma appendBlockAnswer (h : l.appendBlockAnswer flags i = some l') : SameSession l l' := by
  obtain ⟨l₁, hsecurity, hblock⟩ := Option.bind_eq_some_iff.mp h
  have h₁ : SameSession l l₁ := by
    split_ifs at hsecurity
    · exact cget hsecurity
    · cases hsecurity
      exact .refl l
  exact h₁.trans (cget hblock)

lemma appendBlocks {is : List Nat} :
    ∀ {l : Iso15693_3Listener}, appendBlocks flags is l = some l' → SameSession l l' := by
  induction is with
  | nil =>
    intro l h
    cases h
    exact .refl _
  | cons i is ih =>
    intro l h
    obtain ⟨l₁, hfirst, hrest⟩ := Option.bind_eq_some_iff.mp h
    exact (appendBlockAnswer hfirst).trans (ih hrest)

lemma appendBlocksLocked {is : List Nat} :
    ∀ {l : Iso15693_3Listener}, appendBlocksLocked is l = some l' → SameSession l l' := by
  induction is with
  | nil =>
    intro l h
    cases h
    exact .refl _
  | cons i is ih =>
    intro l h
    obtain ⟨locked, -, h⟩ := Option.bind_eq_some_iff.mp h
    obtain ⟨l₁, happend, hrest⟩ := Option.bind_eq_some_iff.mp h
    exact (append happend).trans (ih hrest)

lemma appendField {flag : Bool} {bytes : List (BitVec 8)}
    (h : l.appendField flag bytes = some l') : SameSession l l' := by
  unfold Iso15693_3Listener.appendField at h
  split_ifs at h
  · exact append h
  · cases h
    exact .refl l

lemma inventoryHandler (h : l.inventoryHandler data dataSize flags = some (error, l')) :
    SameSession l l' := by
  unfold Iso15693_3Listener.inventoryHandler at h
  dsimp only at h
  split_ifs at h
  all_goals try (cases h; exact .refl l)
  all_goals
    obtain ⟨l₁, h₁, h⟩ := Option.bind_eq_some_iff.mp h
    obtain ⟨l₂, h₂, h⟩ := Option.bind_eq_some_iff.mp h
    cases h
    exact (append h₁).trans (append h₂)

lemma readBlockHandler (h : l.readBlockHandler data dataSize flags = some (error, l')) :
    SameSession l l' := by
  unfold Iso15693_3Listener.readBlockHandler at h
  dsimp only at h
  split_ifs at h
  · cases h; exact .refl l
  · cases h; exact .refl l
  · obtain ⟨l₁, h₁, h⟩ := Option.bind_eq_some_iff.mp h
    cases h
    exact appendBlockAnswer h₁

lemma readMultiBlocksHandler
    (h : l.readMultiBlocksHandler data dataSize flags = some (error, l')) :
    SameSession l l' := by
  unfold Iso15693_3Listener.readMultiBlocksHandler at h
  dsimp only at h
  split_ifs at h
  · cases h; exact .refl l
  · obtain ⟨l₁, h₁, h⟩ := Option.bind_eq_some_iff.mp h
    cases h
    exact appendBlocks h₁

lemma getMultiBlocksSecurityHandler
    (h : l.getMultiBlocksSecurityHandler data dataSize = some (error, l')) :
    SameSession l l' := by
  unfold Iso15693_3Listener.getMultiBlocksSecurityHandler at h
  dsimp only at h
  split_ifs at h
  · cases h; exact .refl l
  · cases h; exact .refl l
  · obtain ⟨l₁, h₁, h⟩ := Option.bind_eq_some_iff.mp h
    cases h
    exact appendBlocksLocked h₁

lemma getSystemInfoHandler (h : l.getSystemInfoHandler = some (error, l')) :
    SameSession l l' := by
  obtain ⟨l₁, h₁, h⟩ := Option.bind_eq_some_iff.mp h
  obtain ⟨l₂, h₂, h⟩ := Option.bind_eq_some_iff.mp h
  obtain ⟨l₃, h₃, h⟩ := Option.bind_eq_some_iff.mp h
  obtain ⟨l₄, h₄, h⟩ := Option.bind_eq_some_iff.mp h
  obtain ⟨l₅, h₅, h⟩ := Option.bind_eq_some_iff.mp h
  obtain ⟨l₆, h₆, h⟩ := Option.bind_eq_some_iff.mp h
  cases h
  exact (append h₁).trans <| (append h₂).trans <| (appendField h₃).trans <|
    (appendField h₄).trans <| (appendField h₅).trans (appendField h₆)

end SameSession

/-- Besides writing, the write handlers set the flag that makes the answer wait for an EOF, whatever
becomes of the request. -/
lemma writeHandler_session {command : BitVec 8} (hwrite : command ∈ iso15693_3WriteCommands)
    (h : l.handler data dataSize flags command = some (some (error, l'))) :
    l' = { l.setWaitForEof flags with data := l'.data } := by
  simp only [iso15693_3WriteCommands, List.mem_cons, List.not_mem_nil, or_false] at hwrite
  rcases hwrite with rfl | rfl | rfl | rfl | rfl | rfl | rfl
  · have h := Option.some.inj h
    unfold writeBlockHandler at h
    dsimp only at h
    split_ifs at h
    all_goals try (cases h; rfl)
    obtain ⟨locked, -, h⟩ := Option.bind_eq_some_iff.mp h
    cases locked with
    | true => cases h; rfl
    | false =>
      obtain ⟨card, -, h⟩ := Option.bind_eq_some_iff.mp h
      cases h
      rfl
  · have h := Option.some.inj h
    unfold lockBlockHandler at h
    dsimp only at h
    split_ifs at h
    all_goals try (cases h; rfl)
    obtain ⟨locked, -, h⟩ := Option.bind_eq_some_iff.mp h
    cases locked with
    | true => cases h; rfl
    | false =>
      obtain ⟨card, -, h⟩ := Option.bind_eq_some_iff.mp h
      cases h
      rfl
  · have h := Option.some.inj h
    unfold writeMultiBlocksHandler at h
    dsimp only at h
    split_ifs at h
    all_goals try (cases h; rfl)
    obtain ⟨locked, -, h⟩ := Option.bind_eq_some_iff.mp h
    cases locked with
    | true => cases h; rfl
    | false =>
      obtain ⟨card, -, h⟩ := Option.bind_eq_some_iff.mp h
      cases h
      rfl
  · have h := Option.some.inj h
    unfold writeAfiHandler at h
    dsimp only at h
    split_ifs at h <;> cases h <;> rfl
  · have h := Option.some.inj h
    unfold lockAfiHandler at h
    dsimp only at h
    split_ifs at h <;> cases h <;> rfl
  · have h := Option.some.inj h
    unfold writeDsfidHandler at h
    dsimp only at h
    split_ifs at h <;> cases h <;> rfl
  · have h := Option.some.inj h
    unfold lockDsfidHandler at h
    dsimp only at h
    split_ifs at h <;> cases h <;> rfl

lemma handler_session {command : BitVec 8}
    (h : l.handler data dataSize flags command = some (some (error, l'))) :
    l'.state = stateAfter l.state flags command ∧
      l'.sessionState = (if command ∈ iso15693_3WriteCommands then l.setWaitForEof flags
        else l).sessionState := by
  by_cases hwrite : command ∈ iso15693_3WriteCommands
  · rw [if_pos hwrite, writeHandler_session hwrite h]
    refine ⟨?_, rfl⟩
    simp only [iso15693_3WriteCommands, List.mem_cons, List.not_mem_nil, or_false] at hwrite
    rcases hwrite with rfl | rfl | rfl | rfl | rfl | rfl | rfl <;> rfl
  · rw [if_neg hwrite]
    -- a handler that only appends to the answer
    have hsame (hsame : SameSession l l') (hstate : stateAfter l.state flags command = l.state) :
        l'.state = stateAfter l.state flags command ∧ l'.sessionState = l.sessionState :=
      ⟨hsame.state.trans hstate.symm, hsame.sessionState⟩
    unfold handler at h
    split at h
    · exact hsame (.inventoryHandler (Option.some.inj h)) rfl
    · cases h; exact ⟨rfl, rfl⟩
    · exact hsame (.readBlockHandler (Option.some.inj h)) rfl
    · exact absurd (by decide) hwrite
    · exact absurd (by decide) hwrite
    · exact hsame (.readMultiBlocksHandler (Option.some.inj h)) rfl
    · exact absurd (by decide) hwrite
    · unfold selectHandler at h
      split_ifs at h with hflag
      · cases h
        exact ⟨by simp [stateAfter, hflag], rfl⟩
      · cases h
        refine ⟨?_, rfl⟩
        rw [stateAfter, if_neg (by decide), if_neg fun h => hflag h.2, if_neg (by decide)]
    · cases h; exact ⟨rfl, rfl⟩
    · exact absurd (by decide) hwrite
    · exact absurd (by decide) hwrite
    · exact absurd (by decide) hwrite
    · exact absurd (by decide) hwrite
    · exact hsame (.getSystemInfoHandler (Option.some.inj h)) rfl
    · exact hsame (.getMultiBlocksSecurityHandler (Option.some.inj h)) rfl
    · cases h

/-! ### One event -/

variable {reply : Iso15693_3Reply} {rxBuffer : Memory} {size : Nat} {event : Iso15693_3NfcEvent}
  {r : Iso15693_3Request}

lemma selectMode_state (l : Iso15693_3Listener) (flags : BitVec 8) :
    (l.selectMode flags).2.state = l.state ∧
      (l.selectMode flags).2.sessionState.waitForEof = l.sessionState.waitForEof ∧
      (l.selectMode flags).2.txBuffer = l.txBuffer := by
  unfold selectMode
  dsimp only
  split_ifs <;> exact ⟨rfl, rfl, rfl⟩

/-- The listener that a handler gets for a request. -/
def takingUp (l : Iso15693_3Listener) (r : Iso15693_3Request) : Iso15693_3Listener :=
  { (l.selectMode r.flags).2 with txBuffer := [0] }

/-- What the listener has to say to a request: nothing to one that is malformed or ignored. -/
def response (l : Iso15693_3Listener) (r : Iso15693_3Request) : Option (List (BitVec 8)) :=
  match (l.takingUp r).handler r.data r.dataSize r.flags r.command with
  | some (some (error, l')) =>
    if error = .format ∨ error = .ignore then none
    else if error = .none then some l'.txBuffer
    else some [1, 0x0F]
  | _ => none

/-- What becomes of a request that is taken up. -/
structure Responds (l l' : Iso15693_3Listener) (r : Iso15693_3Request)
    (reply : Iso15693_3Reply) : Prop where
  sent : reply.sent = if l'.sessionState.waitForEof then none else l.response r
  state : l'.state = stateAfter l.state r.flags r.command
  waitForEof : l'.sessionState.waitForEof =
    if r.command ∈ iso15693_3WriteCommands then r.flags.getLsbD 6 else l.sessionState.waitForEof

/-- What becomes of an event that brings no request to be taken up: a request for another card can
end a selection. -/
structure StaysSilent (l l' : Iso15693_3Listener) (reply : Iso15693_3Reply) : Prop where
  sent : reply.sent = none
  data : l'.data = l.data
  state : l'.state = l.state ∨ l.state = .selected ∧ l'.state = .ready
  waitForEof : l'.sessionState.waitForEof = l.sessionState.waitForEof

lemma answer_session (h : l.answer error = some (reply, l')) :
    l'.state = l.state ∧ l'.sessionState = l.sessionState ∧
      reply.sent = if l.sessionState.waitForEof then none
        else if error = .format ∨ error = .ignore then none
        else if error = .none then some l.txBuffer
        else some [1, 0x0F] := by
  unfold answer at h
  dsimp only at h
  split_ifs at h with hsilent herror heof heof
  · cases h
    exact ⟨rfl, rfl, by rw [if_pos hsilent, ite_self]⟩
  · cases h
    exact ⟨rfl, rfl, (if_pos heof).symm⟩
  · obtain ⟨frame, hframe, h⟩ := Option.map_eq_some_iff.mp h
    cases h
    unfold sendFrame at hframe
    split_ifs at hframe
    cases hframe
    exact ⟨rfl, rfl, by rw [if_neg heof, if_neg hsilent, if_pos herror]⟩
  · cases h
    exact ⟨rfl, rfl, (if_pos heof).symm⟩
  · obtain ⟨frame, hframe, h⟩ := Option.map_eq_some_iff.mp h
    cases h
    unfold sendFrame at hframe
    split_ifs at hframe
    cases hframe
    exact ⟨rfl, rfl, by rw [if_neg heof, if_neg hsilent, if_neg herror]⟩

/-- A command without a handler changes neither state nor session. -/
lemma not_write_of_handler_none {command : BitVec 8}
    (h : l.handler data dataSize flags command = none) (state : Iso15693_3ListenerState) :
    command ∉ iso15693_3WriteCommands ∧ stateAfter state flags command = state := by
  constructor
  · intro hwrite
    simp only [iso15693_3WriteCommands, List.mem_cons, List.not_mem_nil, or_false] at hwrite
    rcases hwrite with rfl | rfl | rfl | rfl | rfl | rfl | rfl <;> cases h
  · unfold stateAfter
    split_ifs with h02 h25 h26
    · subst h02
      cases h
    · obtain ⟨rfl, -⟩ := h25
      cases h
    · subst h26
      cases h
    · rfl

lemma handleStandardRequest_responds {bytes : List (BitVec 8)}
    (h : { (l.selectMode r.flags).2 with txBuffer := bytes }.handleStandardRequest
      r.data r.dataSize r.flags r.command = some (reply, l')) :
    Responds l l' r reply := by
  obtain ⟨hstate, hwait, -⟩ := selectMode_state l r.flags
  unfold handleStandardRequest at h
  split_ifs at h
  split at h
  · rename_i hnone
    cases h
    obtain ⟨hwrite, hafter⟩ := not_write_of_handler_none hnone l.state
    have hresponse : l.response r = none := by
      rw [response, takingUp]
      dsimp only at hnone ⊢
      rw [hnone]
    exact ⟨by rw [hresponse, ite_self], by rw [hafter]; exact hstate,
      by rw [if_neg hwrite]; exact hwait⟩
  · rename_i result hhandler
    obtain ⟨⟨error, l₁⟩, rfl, hanswer⟩ := Option.bind_eq_some_iff.mp h
    obtain ⟨hstate₁, hsession₁⟩ := handler_session hhandler
    obtain ⟨hstate', hsession', hsent⟩ := answer_session hanswer
    have hresponse : l.response r = if error = .format ∨ error = .ignore then none
        else if error = .none then some l₁.txBuffer else some [1, 0x0F] := by
      rw [response, takingUp]
      dsimp only at hhandler ⊢
      rw [hhandler]
    refine ⟨by rw [hresponse, hsession']; exact hsent, ?_, ?_⟩
    · rw [hstate', hstate₁]
      exact congrArg (stateAfter · r.flags r.command) hstate
    · rw [hsession', hsession₁]
      split_ifs
      · rfl
      · exact hwait

/-- The Select of another card does not come with a request that is taken up. -/
lemma processUidMismatch_of_select {bytes : List (BitVec 8)} {l₀ : Iso15693_3Listener}
    (h : { l₀ with txBuffer := bytes }.handleStandardRequest data dataSize flags
      (rxBuffer 1) = some (reply, l')) (herror : reply.error = .uidMismatch) :
    l'.processUidMismatch rxBuffer = l' := by
  unfold processUidMismatch
  refine if_neg fun hselect => ?_
  rw [hselect.1] at h
  unfold handleStandardRequest at h
  split_ifs at h
  obtain ⟨⟨error, l₁⟩, hhandler, hanswer⟩ := Option.bind_eq_some_iff.mp h
  rw [(answer_cases hanswer).1] at herror
  subst herror
  unfold selectHandler at hhandler
  split_ifs at hhandler <;> cases hhandler

lemma selectMode_txBuffer (l : Iso15693_3Listener) (bytes : List (BitVec 8)) (flags : BitVec 8) :
    { l with txBuffer := bytes }.selectMode flags =
      ((l.selectMode flags).1, { (l.selectMode flags).2 with txBuffer := bytes }) := by
  unfold selectMode
  dsimp only
  split_ifs <;> rfl

lemma processRequest_session (h : l.processRequest rxBuffer size = some (reply, l')) :
    (∃ r, l.requestTaken (.frame rxBuffer size) = some r ∧ r.command = rxBuffer 1 ∧
      (l.selectMode r.flags).2.handleStandardRequest r.data r.dataSize r.flags r.command =
        some (reply, l')) ∨
      l.requestTaken (.frame rxBuffer size) = none ∧ reply.sent = none ∧
        (l' = l ∨ l' = (l.selectMode (rxBuffer 0)).2) := by
  unfold processRequest at h
  dsimp only at h
  rcases Nat.lt_or_ge size 2 with hsize | hsize
  · rw [if_pos hsize] at h
    cases h
    exact .inr ⟨if_neg fun h => Nat.not_le.mpr hsize h.1, rfl, .inl rfl⟩
  rw [if_neg (Nat.not_lt.mpr hsize)] at h
  by_cases hmode : (l.selectMode (rxBuffer 0)).1 = .none
  swap
  · rw [if_pos hmode] at h
    cases h
    exact .inr ⟨if_neg fun h => hmode h.2.1, rfl, .inr rfl⟩
  rw [if_neg (not_not.mpr hmode)] at h
  have haddressed := selectMode_addressed hmode
  have hdata := selectMode_data l (rxBuffer 0)
  split_ifs at h with hcustom hmodeAddressed hshort huid
  · cases h
    exact .inr ⟨if_neg fun h => Nat.not_le.mpr h.2.2.1 hcustom, rfl, .inr rfl⟩
  · cases h
    obtain ⟨h2, h5⟩ := haddressed.mp hmodeAddressed
    exact .inr ⟨if_neg fun h => Nat.not_le.mpr hshort (h.2.2.2 h2 h5).1, rfl, .inr rfl⟩
  · cases h
    obtain ⟨h2, h5⟩ := haddressed.mp hmodeAddressed
    rw [hdata] at huid
    exact .inr ⟨if_neg fun h => absurd (h.2.2.2 h2 h5).2 (by rw [huid]; nofun), rfl, .inr rfl⟩
  · have hflags := haddressed.mp hmodeAddressed
    rw [hdata, Bool.not_eq_false] at huid
    refine .inl ⟨.ofFrame rxBuffer size,
      if_pos ⟨hsize, hmode, Nat.lt_of_not_le hcustom, fun _ _ => ⟨Nat.le_of_not_lt hshort, huid⟩⟩,
      rfl, ?_⟩
    rw [Iso15693_3Request.ofFrame, if_pos hflags]
    exact h
  · have hflags := mt haddressed.mpr hmodeAddressed
    refine .inl ⟨.ofFrame rxBuffer size,
      if_pos ⟨hsize, hmode, Nat.lt_of_not_le hcustom, fun h2 h5 => absurd ⟨h2, h5⟩ hflags⟩, rfl, ?_⟩
    rw [Iso15693_3Request.ofFrame, if_neg hflags]
    exact h

lemma run_session (h : l.run event = some (reply, l')) :
    (∃ r, l.requestTaken event = some r ∧ Responds l l' r reply) ∨
      l.requestTaken event = none ∧
        (event = .eof ∧ l.sessionState.waitForEof = true ∧ l'.state = l.state ∨
          StaysSilent l l' reply) := by
  cases event with
  | eof =>
    have h : { l with txBuffer := [] }.processSingleEof = some (reply, l') := h
    unfold processSingleEof at h
    dsimp only at h
    split_ifs at h with hwait
    · obtain ⟨frame, -, h⟩ := Option.map_eq_some_iff.mp h
      cases h
      exact .inr ⟨rfl, .inl ⟨rfl, hwait, rfl⟩⟩
    · cases h
      exact .inr ⟨rfl, .inr ⟨rfl, rfl, .inl rfl, rfl⟩⟩
  | wrongCrc =>
    cases h
    exact .inr ⟨rfl, .inr ⟨rfl, rfl, .inl rfl, rfl⟩⟩
  | frame rxBuffer size =>
    obtain ⟨⟨_, l₁⟩, hrequest, h⟩ := Option.map_eq_some_iff.mp h
    cases h
    rw [← requestTaken_txBuffer l []]
    rcases processRequest_session hrequest with ⟨r, hr, hcommand, hhandle⟩ | ⟨hr, hsent, hl₁⟩
    · rw [selectMode_txBuffer] at hhandle
      refine .inl ⟨r, hr, ?_⟩
      split_ifs with herror
      · rw [processUidMismatch_of_select (hcommand ▸ hhandle) herror]
        exact handleStandardRequest_responds hhandle
      · exact handleStandardRequest_responds hhandle
    · refine .inr ⟨hr, .inr ?_⟩
      have hsame : StaysSilent l l₁ reply := by
        rcases hl₁ with rfl | rfl
        · exact ⟨hsent, rfl, .inl rfl, rfl⟩
        · obtain ⟨hstate, hwait, -⟩ := selectMode_state { l with txBuffer := [] } (rxBuffer 0)
          exact ⟨hsent, selectMode_data _ _, .inl hstate, hwait⟩
      split_ifs
      · unfold processUidMismatch
        split_ifs with hselect
        · refine ⟨hsent, hsame.data, .inr ⟨?_, rfl⟩, hsame.waitForEof⟩
          rcases hsame.state with hstate | ⟨hstate, -⟩
          · rw [← hstate]
            exact hselect.2
          · exact hstate
        · exact hsame
      · exact hsame

lemma run_of_not_taken (h : l.requestTaken (.frame rxBuffer size) = none) :
    ∃ error l', l.run (.frame rxBuffer size) = some (⟨error, none⟩, l') := by
  suffices ∃ error l', { l with txBuffer := [] }.processRequest rxBuffer size =
      some (⟨error, none⟩, l') by
    obtain ⟨error, l', hrequest⟩ := this
    exact ⟨error, _, by rw [run, hrequest]; rfl⟩
  rw [← requestTaken_txBuffer l []] at h
  generalize { l with txBuffer := [] } = l at h
  unfold processRequest
  dsimp only
  rcases Nat.lt_or_ge size 2 with hsize | hsize
  · rw [if_pos hsize]
    exact ⟨_, _, rfl⟩
  rw [if_neg (Nat.not_lt.mpr hsize)]
  by_cases hmode : (l.selectMode (rxBuffer 0)).1 = .none
  swap
  · rw [if_pos hmode]
    exact ⟨_, _, rfl⟩
  rw [if_neg (not_not.mpr hmode)]
  have haddressed := selectMode_addressed hmode
  have hdata := selectMode_data l (rxBuffer 0)
  split_ifs with hcustom hmodeAddressed hshort huid
  · exact ⟨_, _, rfl⟩
  · exact ⟨_, _, rfl⟩
  · exact ⟨_, _, rfl⟩
  · rw [hdata, Bool.not_eq_false] at huid
    cases (if_pos ⟨hsize, hmode, Nat.lt_of_not_le hcustom, fun _ _ =>
      ⟨Nat.le_of_not_lt hshort, huid⟩⟩).symm.trans h
  · have hflags := mt haddressed.mpr hmodeAddressed
    cases (if_pos ⟨hsize, hmode, Nat.lt_of_not_le hcustom, fun h2 h5 =>
      absurd ⟨h2, h5⟩ hflags⟩).symm.trans h

end Iso15693_3Listener

/-! ### A card that was told to stay quiet -/

/-- How a request is directed, by the flags of its frame. -/
inductive Iso15693_3Mode where
  | inventory
  | addressed
  | selected
  | plain
  deriving DecidableEq, Repr

namespace Iso15693_3NfcEvent

/-- The mode of the request in a frame; a request cannot be both addressed and selected. -/
def mode : Iso15693_3NfcEvent → Option Iso15693_3Mode
  | .frame rxBuffer size =>
    if size < 2 then none
    else if (rxBuffer 0).getLsbD 2 then some .inventory
    else
      match (rxBuffer 0).getLsbD 4, (rxBuffer 0).getLsbD 5 with
      | false, false => some .plain
      | true, false  => some .selected
      | false, true  => some .addressed
      | true, true   => none
  | _ => none

def command : Iso15693_3NfcEvent → BitVec 8
  | .frame rxBuffer _ => rxBuffer 1
  | _                 => 0

end Iso15693_3NfcEvent

namespace Iso15693_3Listener

/-- An addressed request with the UID of the card (`own`), or with another one. -/
def IsFor (l : Iso15693_3Listener) (own : Bool) : Iso15693_3NfcEvent → Prop
  | .frame rxBuffer size =>
    Iso15693_3NfcEvent.mode (.frame rxBuffer size) = some .addressed ∧ 10 ≤ size ∧
      l.data.isEqualUid (fun i => rxBuffer (2 + i)) = own
  | _ => False

instance (l : Iso15693_3Listener) (own : Bool) :
    ∀ event : Iso15693_3NfcEvent, Decidable (l.IsFor own event)
  | .frame _ _ => inferInstanceAs (Decidable (_ ∧ _ ∧ _))
  | .eof       => .isFalse id
  | .wrongCrc  => .isFalse id

/-- Whether the card has to be quiet after an event: it was told to by a Stay Quiet that it
accepted, and neither a Select nor a Reset to Ready was addressed to it since. -/
def quietAfter (l : Iso15693_3Listener) (quiet : Bool) (event : Iso15693_3NfcEvent) : Bool :=
  if l.IsFor true event ∧ (event.command = 0x25 ∨ event.command = 0x26) then false
  else if (l.run event).isSome ∧ (l.requestTaken event).any (·.command = 0x02) then true
  else quiet

/-- An event is not answered, neither at once nor at an EOF that may follow. -/
def Unanswered (l : Iso15693_3Listener) (event : Iso15693_3NfcEvent) : Prop :=
  ∃ error l', l.run event = some (⟨error, none⟩, l') ∧
    l'.sessionState.waitForEof = l.sessionState.waitForEof

/-- What is expected of the card at an event, when it has to be quiet (`s.2`) and always. -/
structure KeepsQuiet (s : Iso15693_3Listener × Bool) (event : Iso15693_3NfcEvent) : Prop where
  inventory : s.2 = true → event.mode = some .inventory → s.1.Unanswered event
  plain : s.2 = true → event.mode = some .plain → s.1.Unanswered event
  own : s.2 = true → s.1.IsFor true event → event.command.toNat < 0xA0 →
    (s.1.requestTaken event).isSome
  other : s.1.IsFor false event → s.1.Unanswered event ∧
    ∀ reply l', s.1.run event = some (reply, l') → l'.data = s.1.data

/-- While the card is quiet, no request is addressed to it or goes to every card, and no Reset to
Ready goes to the selected card: the test of a quiet card does not decide about any of these. -/
def QuietUndisturbed (l : Iso15693_3Listener) (event : Iso15693_3NfcEvent) : Prop :=
  l.state = .quiet → event.mode ≠ some .plain ∧ ¬ l.IsFor true event ∧
    (event.mode = some .selected → event.command ≠ 0x26)

instance (l : Iso15693_3Listener) (event : Iso15693_3NfcEvent) :
    Decidable (l.QuietUndisturbed event) :=
  inferInstanceAs (Decidable (_ → _ ∧ _ ∧ (_ → _)))

variable {l l' : Iso15693_3Listener} {reply : Iso15693_3Reply} {event : Iso15693_3NfcEvent}
  {r : Iso15693_3Request} {rxBuffer : Memory} {size : Nat}

lemma requestTaken_eq_some (h : l.requestTaken (.frame rxBuffer size) = some r) :
    2 ≤ size ∧ (l.selectMode (rxBuffer 0)).1 = .none ∧ r.flags = rxBuffer 0 ∧
      r.command = rxBuffer 1 := by
  unfold requestTaken at h
  dsimp only at h
  split_ifs at h with htaken
  cases h
  exact ⟨htaken.1, htaken.2.1, rfl, rfl⟩

lemma mode_of_taken_quiet (hquiet : l.state = .quiet) (h : l.requestTaken event = some r) :
    r.command = event.command ∧
      (event.mode = some .plain ∨ event.mode = some .selected ∧ r.flags.getLsbD 5 = false) := by
  cases event with
  | eof => cases h
  | wrongCrc => cases h
  | frame rxBuffer size =>
    obtain ⟨hsize, hmode, hflags, hcommand⟩ := requestTaken_eq_some h
    refine ⟨hcommand, ?_⟩
    rw [Iso15693_3NfcEvent.mode, if_neg (Nat.not_lt.mpr hsize), hflags]
    unfold selectMode at hmode
    rw [hquiet] at hmode
    cases h2 : (rxBuffer 0).getLsbD 2 <;> cases h4 : (rxBuffer 0).getLsbD 4 <;>
      cases h5 : (rxBuffer 0).getLsbD 5 <;> simp_all

lemma not_taken_inventory (hquiet : l.state = .quiet) (h : event.mode = some .inventory) :
    l.requestTaken event = none := by
  cases hr : l.requestTaken event with
  | none => rfl
  | some r =>
    obtain ⟨-, hmode | ⟨hmode, -⟩⟩ := mode_of_taken_quiet hquiet hr
    · cases h.symm.trans hmode
    · cases h.symm.trans hmode

lemma not_taken_other (h : l.IsFor false event) : l.requestTaken event = none := by
  cases event with
  | eof => rfl
  | wrongCrc => rfl
  | frame rxBuffer size =>
    obtain ⟨hmode, -, huid⟩ := h
    refine if_neg fun htaken => ?_
    have h25 : (rxBuffer 0).getLsbD 2 = false ∧ (rxBuffer 0).getLsbD 5 = true := by
      rw [Iso15693_3NfcEvent.mode, if_neg (Nat.not_lt.mpr htaken.1)] at hmode
      cases h2 : (rxBuffer 0).getLsbD 2 <;> cases h4 : (rxBuffer 0).getLsbD 4 <;>
        cases h5 : (rxBuffer 0).getLsbD 5 <;> simp_all
    have hown := (htaken.2.2.2 h25.1 h25.2).2
    rw [huid] at hown
    cases hown

lemma unanswered_of_not_taken (h : l.requestTaken (.frame rxBuffer size) = none) :
    l.Unanswered (.frame rxBuffer size) := by
  obtain ⟨error, l', hrun⟩ := run_of_not_taken h
  refine ⟨error, l', hrun, ?_⟩
  rcases run_session hrun with ⟨r, hr, -⟩ | ⟨-, ⟨⟨⟩, -⟩ | hsilent⟩
  · cases h.symm.trans hr
  · exact hsilent.waitForEof

lemma state_of_quietAfter {quiet : Bool} (hinv : quiet = true → l.state = .quiet)
    (hguard : l.QuietUndisturbed event) (hafter : l.quietAfter quiet event = true) :
    (iso15693_3Listener.step l event).2.state = .quiet := by
  simp only [iso15693_3Listener]
  unfold quietAfter at hafter
  cases hrun : l.run event with
  | none =>
    rw [hrun] at hafter
    split_ifs at hafter with _ haccepted
    · cases haccepted.1
    · exact hinv hafter
  | some result =>
    obtain ⟨reply, l'⟩ := result
    rcases run_session hrun with ⟨r, hr, hresponds⟩ | ⟨hr, hsilent⟩
    · refine hresponds.state.trans ?_
      rw [hr, Option.any_some] at hafter
      split_ifs at hafter with _ haccepted
      · rw [of_decide_eq_true haccepted.2]
        rfl
      · -- a selected request cannot end the quiet state, except for a Reset to Ready
        have hquiet := hinv hafter
        obtain ⟨hplain, -, hreset⟩ := hguard hquiet
        obtain ⟨hcommand, hmode | ⟨hmode, hflag⟩⟩ := mode_of_taken_quiet hquiet hr
        · exact absurd hmode hplain
        · have hselect : ¬ (event.command = 0x25 ∧ r.flags.getLsbD 5 = true) := by
            rw [hflag]
            exact fun h => Bool.false_ne_true h.2
          rw [stateAfter, hquiet, hcommand, if_neg hselect, if_neg (hreset hmode), ite_self]
    · rw [hr] at hafter
      split_ifs at hafter with _ haccepted
      · cases haccepted.2
      · have hquiet := hinv hafter
        rcases hsilent with ⟨-, -, hstate⟩ | hsilent
        · exact hstate.trans hquiet
        · rcases hsilent.state with hstate | ⟨hselected, -⟩
          · exact hstate.trans hquiet
          · cases hquiet.symm.trans hselected

lemma keepsQuiet {quiet : Bool} (hinv : quiet = true → l.state = .quiet)
    (hguard : l.QuietUndisturbed event) : KeepsQuiet (l, quiet) event where
  inventory hquiet hmode := by
    cases event with
    | frame rxBuffer size =>
      exact unanswered_of_not_taken (not_taken_inventory (hinv hquiet) hmode)
    | eof => cases hmode
    | wrongCrc => cases hmode
  plain hquiet hmode := absurd hmode (hguard (hinv hquiet)).1
  own hquiet hown _ := absurd hown (hguard (hinv hquiet)).2.1
  other hother := by
    have hr := not_taken_other hother
    cases event with
    | eof => exact hother.elim
    | wrongCrc => exact hother.elim
    | frame rxBuffer size =>
      refine ⟨unanswered_of_not_taken hr, fun reply l' hrun => ?_⟩
      rcases run_session hrun with ⟨r, hr', -⟩ | ⟨-, ⟨⟨⟩, -⟩ | hsilent⟩
      · cases hr'.symm.trans hr
      · exact hsilent.data

end Iso15693_3Listener

/-- The listener together with the duty to be quiet that follows from the requests so far. -/
def iso15693_3Observed :
    Mealy (Iso15693_3Listener × Bool) Iso15693_3NfcEvent (Option Iso15693_3Reply) where
  step s event :=
    ((iso15693_3Listener.step s.1 event).1,
      ((iso15693_3Listener.step s.1 event).2, s.1.quietAfter s.2 event))

open Iso15693_3Listener in
/-- In a run in which nothing disturbs the quiet card, it keeps quiet as long as it has to, and
requests for another card are never answered and change nothing. -/
theorem iso15693_3Listener_keepsQuiet (l : Iso15693_3Listener)
    (events : List Iso15693_3NfcEvent)
    (hrun : iso15693_3Observed.Along (fun s event => s.1.QuietUndisturbed event) (l, false) events) :
    iso15693_3Observed.Along KeepsQuiet (l, false) events :=
  hrun.mono (I := fun s => s.2 = true → s.1.state = .quiet)
    (fun _ _ hinv hguard => state_of_quietAfter hinv hguard)
    (fun _ _ hinv hguard => keepsQuiet hinv hguard) nofun

/-- A Stay Quiet, an inventory request, a Read Single for the card with the UID 1, and one for the
selected card. -/
theorem iso15693_3Listener_keepsQuiet_inventory :
    iso15693_3Observed.Along Iso15693_3Listener.KeepsQuiet (iso15693_3Blank, false)
      [iso15693_3Frame [0x22, 0x02, 0, 0, 0, 0, 0, 0, 0, 0], iso15693_3Frame [0x26, 0x01, 0],
        iso15693_3Frame [0x22, 0x20, 1, 0, 0, 0, 0, 0, 0, 0, 0],
        iso15693_3Frame [0x12, 0x20, 0]] :=
  iso15693_3Listener_keepsQuiet _ _ (by decide +kernel)

/-- After a Stay Quiet the card answers a Read Single for every card, and takes no notice of one for
itself. -/
theorem iso15693_3Listener_quiet_reversed :
    let stayQuiet := iso15693_3Frame [0x22, 0x02, 0, 0, 0, 0, 0, 0, 0, 0]
    let read := iso15693_3Frame [0x02, 0x20, 0]
    let readAddressed := iso15693_3Frame [0x22, 0x20, 0, 0, 0, 0, 0, 0, 0, 0, 0]
    ¬ iso15693_3Observed.Along Iso15693_3Listener.KeepsQuiet (iso15693_3Blank, false)
        [stayQuiet, read] ∧
      ¬ iso15693_3Observed.Along Iso15693_3Listener.KeepsQuiet (iso15693_3Blank, false)
        [stayQuiet, readAddressed] := by
  constructor
  · rintro ⟨-, h, -⟩
    obtain ⟨error, l', hrun, -⟩ := h.plain (by decide +kernel) (by decide +kernel)
    have hsent := congrArg (Option.map fun result => result.1.sent) hrun
    change _ = some none at hsent
    revert hsent
    decide +kernel
  · rintro ⟨-, h, -⟩
    have htaken := h.own (by decide +kernel) (by decide +kernel) (by decide +kernel)
    revert htaken
    decide +kernel

/-! ### Answers that wait -/

/-- The answer has to wait for an EOF: a request that writes, with the Option flag. -/
def Iso15693_3Request.Deferred (r : Iso15693_3Request) : Prop :=
  r.command ∈ iso15693_3WriteCommands ∧ r.flags.getLsbD 6 = true

instance (r : Iso15693_3Request) : Decidable r.Deferred := inferInstanceAs (Decidable (_ ∧ _))

namespace Iso15693_3Listener

/-- The answer that an EOF behind an event should bring. -/
def pendingAfter (l : Iso15693_3Listener) (event : Iso15693_3NfcEvent) :
    Option (List (BitVec 8)) :=
  (l.requestTaken event).bind fun r => if r.Deferred then l.response r else none

/-- What should be sent at an event: at an EOF the answer that waits, at a request its own answer
unless that one has to wait. -/
def due (l : Iso15693_3Listener) (pending : Option (List (BitVec 8))) :
    Iso15693_3NfcEvent → Option (List (BitVec 8))
  | .eof  => pending
  | event => (l.requestTaken event).bind fun r => if r.Deferred then none else l.response r

def AnswersDue (s : Iso15693_3Listener × Option (List (BitVec 8)))
    (event : Iso15693_3NfcEvent) : Prop :=
  ∀ reply l', s.1.run event = some (reply, l') → reply.sent = s.1.due s.2 event

instance (s : Iso15693_3Listener × Option (List (BitVec 8))) (event : Iso15693_3NfcEvent) :
    Decidable (AnswersDue s event) :=
  decidable_of_iff
    (∀ sent ∈ (s.1.run event).map fun result : Iso15693_3Reply × _ => result.1.sent,
      sent = s.1.due s.2 event)
    ⟨fun h reply l' hrun => h reply.sent (by rw [hrun]; rfl), fun h sent hsent => by
      obtain ⟨⟨reply, l'⟩, hrun, rfl⟩ := Option.map_eq_some_iff.mp hsent
      exact h reply l' hrun⟩

/-- No answer has to wait. -/
def NotDeferred (l : Iso15693_3Listener) (event : Iso15693_3NfcEvent) : Prop :=
  ∀ r ∈ l.requestTaken event, ¬ r.Deferred

instance (l : Iso15693_3Listener) (event : Iso15693_3NfcEvent) : Decidable (l.NotDeferred event) :=
  inferInstanceAs (Decidable (∀ r ∈ l.requestTaken event, _))

variable {l l' : Iso15693_3Listener} {event : Iso15693_3NfcEvent} {r : Iso15693_3Request}
  {reply : Iso15693_3Reply}

/-- A request whose answer does not have to wait leaves no answer waiting. -/
lemma Responds.not_waiting (h : Responds l l' r reply) (hwait : l.sessionState.waitForEof = false)
    (hr : ¬ r.Deferred) : l'.sessionState.waitForEof = false := by
  rw [h.waitForEof]
  split_ifs with hwrite
  · exact Bool.not_eq_true _ ▸ fun hflag => hr ⟨hwrite, hflag⟩
  · exact hwait

lemma answersDue (hwait : l.sessionState.waitForEof = false) (hguard : l.NotDeferred event) :
    AnswersDue (l, none) event := by
  intro reply l' hrun
  have hdue : l.due none event = (l.requestTaken event).bind l.response := by
    cases hr : l.requestTaken event with
    | none =>
      unfold due
      split
      · rfl
      · rw [hr]
        rfl
    | some r =>
      unfold due
      split
      · cases hr
      · rw [hr, Option.bind_some, if_neg (hguard r hr)]
        rfl
  rw [hdue]
  rcases run_session hrun with ⟨r, hr, hresponds⟩ | ⟨hr, ⟨-, hwait', -⟩ | hsilent⟩
  · rw [hresponds.sent, hresponds.not_waiting hwait (hguard r hr), hr]
    rfl
  · cases hwait.symm.trans hwait'
  · rw [hsilent.sent, hr]
    rfl

lemma not_waiting_step (hwait : l.sessionState.waitForEof = false)
    (hguard : l.NotDeferred event) :
    (iso15693_3Listener.step l event).2.sessionState.waitForEof = false ∧
      l.pendingAfter event = none := by
  constructor
  · simp only [iso15693_3Listener]
    cases hrun : l.run event with
    | none => exact hwait
    | some result =>
      obtain ⟨reply, l'⟩ := result
      rcases run_session hrun with ⟨r, hr, hresponds⟩ | ⟨-, ⟨-, hwait', -⟩ | hsilent⟩
      · exact hresponds.not_waiting hwait (hguard r hr)
      · cases hwait.symm.trans hwait'
      · exact hsilent.waitForEof.trans hwait
  · unfold pendingAfter
    cases hr : l.requestTaken event with
    | none => rfl
    | some r => exact if_neg (hguard r hr)

lemma response_ne_nil (hr : r.command ∈ iso15693_3WriteCommands) : l.response r ≠ some [] := by
  unfold response
  split
  · rename_i error l' hhandler
    have htx : l'.txBuffer = [0] := by
      rw [writeHandler_session hr hhandler]
      rfl
    rw [htx]
    split_ifs <;> nofun
  · nofun

/-- The answer that had to wait is lost: the EOF brings an empty frame. -/
lemma not_answersDue_eof (hr : r.Deferred) (hresponds : Responds l l' r reply) :
    ¬ AnswersDue (l', l.response r) .eof := by
  intro h
  have hwait : l'.sessionState.waitForEof = true := by
    rw [hresponds.waitForEof, if_pos hr.1]
    exact hr.2
  have hrun : l'.run .eof = some (⟨.none, some []⟩, { l' with
      txBuffer := [], sessionState := { l'.sessionState with waitForEof := false } }) := by
    rw [run, processSingleEof, if_pos hwait]
    rfl
  exact response_ne_nil hr.1 (h _ _ hrun).symm

end Iso15693_3Listener

/-- The listener together with the answer that waits for an EOF. -/
def iso15693_3Pairing : Mealy (Iso15693_3Listener × Option (List (BitVec 8)))
    Iso15693_3NfcEvent (Option Iso15693_3Reply) where
  step s event :=
    ((iso15693_3Listener.step s.1 event).1,
      ((iso15693_3Listener.step s.1 event).2, s.1.pendingAfter event))

open Iso15693_3Listener in
/-- In a run without an answer that has to wait, every request is answered at once with its own
response and no EOF is answered. A request whose answer has to wait does not get it at the EOF that
follows. -/
theorem iso15693_3Listener_answersDue (l : Iso15693_3Listener)
    (hwait : l.sessionState.waitForEof = false) :
    (∀ events, iso15693_3Pairing.Along (fun s event => s.1.NotDeferred event) (l, none) events →
      iso15693_3Pairing.Along AnswersDue (l, none) events) ∧
    ∀ event, (l.run event).isSome → ¬ l.NotDeferred event →
      ¬ iso15693_3Pairing.Along AnswersDue (l, none) [event, .eof] := by
  constructor
  · intro events hrun
    refine hrun.mono (I := fun s => s.1.sessionState.waitForEof = false ∧ s.2 = none)
      (fun _ _ hs hguard => not_waiting_step hs.1 hguard) ?_ ⟨hwait, rfl⟩
    rintro ⟨l', pending⟩ event ⟨hwait', rfl⟩ hguard
    exact answersDue hwait' hguard
  · intro event hsome hdeferred hrun
    obtain ⟨⟨reply, l'⟩, hevent⟩ := Option.isSome_iff_exists.mp hsome
    obtain ⟨r, hr, hr'⟩ : ∃ r, l.requestTaken event = some r ∧ r.Deferred := by
      simpa [NotDeferred] using hdeferred
    have heof := hrun.2.1
    have hstep : iso15693_3Pairing.step (l, none) event = (some reply, (l', l.response r)) := by
      simp only [iso15693_3Pairing, iso15693_3Listener, hevent, pendingAfter, hr, Option.bind_some,
        if_pos hr']
    rw [hstep] at heof
    rcases run_session hevent with ⟨r', hr'', hresponds⟩ | ⟨hnone, -⟩
    · obtain rfl : r = r' := Option.some.inj (hr.symm.trans hr'')
      exact not_answersDue_eof hr' hresponds heof
    · cases hr.symm.trans hnone

/-- A Write Single without the Option flag, an EOF and a Read Single; a Write Single with the Option
flag. -/
theorem iso15693_3Listener_answersDue_write :
    iso15693_3Pairing.Along Iso15693_3Listener.AnswersDue (iso15693_3Blank, none)
        [iso15693_3Frame [0x02, 0x21, 0, 0xA0, 0xA1], .eof, iso15693_3Frame [0x02, 0x20, 0]] ∧
      ¬ iso15693_3Pairing.Along Iso15693_3Listener.AnswersDue (iso15693_3Blank, none)
        [iso15693_3Frame [0x42, 0x21, 0, 0xA0, 0xA1], .eof] :=
  ⟨(iso15693_3Listener_answersDue iso15693_3Blank rfl).1 _ (by decide +kernel),
    (iso15693_3Listener_answersDue iso15693_3Blank rfl).2 _ (by decide +kernel)
      (by decide +kernel)⟩

/-- The EOF after a Write Single with the Option flag gets an empty frame, and so does the EOF after
one that was malformed. -/
theorem iso15693_3Listener_eof_empty :
    ¬ iso15693_3Pairing.Along Iso15693_3Listener.AnswersDue (iso15693_3Blank, none)
        [iso15693_3Frame [0x42, 0x21, 0, 0xA0, 0xA1], .eof] ∧
      ¬ iso15693_3Pairing.Along Iso15693_3Listener.AnswersDue (iso15693_3Blank, none)
        [iso15693_3Frame [0x42, 0x21, 0], .eof] := by
  decide +kernel

end FlipperZero
