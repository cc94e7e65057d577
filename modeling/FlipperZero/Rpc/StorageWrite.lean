import FlipperZero.Rpc.Storage
import Mathlib.Algebra.Ring.Nat

/-!
# Chunked writes over the RPC

Every command is answered once, a write that is answered with `OK` has left what its chunks
contained, and an error is the end of a write, as long as no chunk arrives for a command that
was answered before, and no chunk with a forbidden name arrives during another command's write
(`RequestSafe`). The handlers remember neither the commands they have answered nor the one that
such a chunk silently ends. And closing the file has to succeed, since the last chunk is answered
before it is closed.
-/

namespace FlipperZero

open Foundation

/-! ### Traces -/

/-- A request with its responses and the files before and after it. -/
structure RpcExchange where
  request : RpcRequest
  responses : List RpcResponse
  before : RpcFiles
  after : RpcFiles

def RpcExchange.chunk (e : RpcExchange) (c : Nat) : Option (Option (List UInt8) × List UInt8) :=
  match e.request.content with
  | .write path data .. => if e.request.commandId = c then some (path, data) else none
  | _ => none

def terminalCount (c : Nat) (rs : List RpcResponse) : Nat :=
  rs.countP fun x => decide (x.commandId = c ∧ x.hasNext = false)

/-- The run of the storage part so far, the last exchange first. -/
structure RpcRun where
  system : RpcStorageSystem
  trace : List RpcExchange

def rpcRun (fileCount : Nat) : Mealy RpcRun RpcRequest (List RpcResponse) where
  step r request :=
    let o := (rpcStorage fileCount).step r.system request
    (o.1, ⟨o.2, ⟨request, o.1, r.system.files, o.2.files⟩ :: r.trace⟩)

/-- The run before the first request. -/
def RpcRun.start (files : RpcFiles) : RpcRun := ⟨.alloc files, []⟩

def commandIds (tr : List RpcExchange) : List Nat := tr.map (·.request.commandId)

/-- How often a command was answered. -/
def answers (c : Nat) (tr : List RpcExchange) : Nat :=
  (tr.map fun e => terminalCount c e.responses).sum

/-- The concatenation of the chunks received for a write. -/
def received (c : Nat) : List RpcExchange → List UInt8
  | []      => []
  | e :: tr => received c tr ++ ((e.chunk c).map Prod.snd).getD []

/-- The path that the first chunk of a write names. -/
def target (c : Nat) : List RpcExchange → Option (List UInt8)
  | []      => none
  | e :: tr => (target c tr).or ((e.chunk c).bind Prod.fst)

/-- A command was answered with an error. -/
def Failed (c : Nat) (tr : List RpcExchange) : Prop :=
  ∃ e ∈ tr, ∃ x ∈ e.responses, x.commandId = c ∧ x.hasNext = false ∧ x.status ≠ .ok

/-- A chunk of the command `c` is answered as it should be: when the answer is `OK`, its file
holds what was received, and after an error there is neither an `OK` nor a change. -/
structure ChunkSound (c : Nat) (e : RpcExchange) (earlier : List RpcExchange) : Prop where
  written : rpcSendEmpty c .ok ∈ e.responses →
    ∃ path, target c (e :: earlier) = some path ∧ e.after path = some (received c (e :: earlier))
  failed : Failed c earlier → rpcSendEmpty c .ok ∉ e.responses ∧ e.after = e.before

/-- Every chunk of the trace is answered as it should be. -/
def TraceSound : List RpcExchange → Prop
  | []      => True
  | e :: tr => (∀ c, (e.chunk c).isSome → ChunkSound c e tr) ∧ TraceSound tr

/-- The command is a write that was begun and not answered yet. -/
def RpcStorageSystem.InProgress (s : RpcStorageSystem) (c : Nat) : Prop :=
  s.state ≠ .idle ∧ s.currentCommandId = c

instance (s : RpcStorageSystem) (c : Nat) : Decidable (s.InProgress c) :=
  inferInstanceAs (Decidable (_ ∧ _))

/-- The condition on a request and the run before it: it continues the write in progress, or
its command id is new, and then a name that is refused finds no write in progress. When the last
chunk of a write arrives as a whole, closing the file succeeds. -/
def RequestSafe (r : RpcRun) (request : RpcRequest) : Prop :=
  match request.content with
  | .write path data hasNext opened _ written _ =>
    (r.system.InProgress request.commandId ∨
      request.commandId ∉ commandIds r.trace ∧
        (pathContainsOnlyAscii path = true ∨ r.system.state = .idle)) ∧
    (pathContainsOnlyAscii path = true → hasNext = false →
      (r.system.InProgress request.commandId ∨ opened = true) → data.length ≤ written →
        request.close = .closed)
  | _ => request.commandId ∉ commandIds r.trace

instance (r : RpcRun) (request : RpcRequest) : Decidable (RequestSafe r request) := by
  unfold RequestSafe
  split <;> infer_instance

/-! ### One answer for each command -/

/-- Responses that answer the command `id` and no other. -/
def AnswersOnce (id : Nat) (rs : List RpcResponse) : Prop :=
  ∀ c, terminalCount c rs = if c = id then 1 else 0

@[simp] lemma terminalCount_nil (c : Nat) : terminalCount c [] = 0 := rfl

@[simp] lemma terminalCount_append (c : Nat) (rs rs' : List RpcResponse) :
    terminalCount c (rs ++ rs') = terminalCount c rs + terminalCount c rs' :=
  List.countP_append

lemma terminalCount_cons_next (c : Nat) {x : RpcResponse} (hx : x.hasNext = true)
    (rs : List RpcResponse) : terminalCount c (x :: rs) = terminalCount c rs := by
  rw [terminalCount, List.countP_cons_of_neg]
  · rfl
  · simp [hx]

lemma AnswersOnce.single {x : RpcResponse} (hx : x.hasNext = false) :
    AnswersOnce x.commandId [x] := by
  intro c
  by_cases h : c = x.commandId
  · simp [terminalCount, hx, h]
  · have hne : ¬ x.commandId = c := fun heq => h heq.symm
    simp [terminalCount, hne, h]

lemma AnswersOnce.cons_next {id : Nat} {rs : List RpcResponse} (h : AnswersOnce id rs)
    {x : RpcResponse} (hx : x.hasNext = true) : AnswersOnce id (x :: rs) := by
  intro c
  rw [terminalCount_cons_next c hx]
  exact h c

lemma rpcSystemStorageReadLoop_answers (id : Nat) (reads : Nat → List UInt8) (n : Nat) :
    if (rpcSystemStorageReadLoop id reads n).2 then
      AnswersOnce id (rpcSystemStorageReadLoop id reads n).1
    else ∀ c, terminalCount c (rpcSystemStorageReadLoop id reads n).1 = 0 := by
  fun_induction rpcSystemStorageReadLoop id reads n with
  | case1 n readSize hzero => exact .single rfl
  | case2 n readSize hne data hread left response hlast =>
    have hx : response.hasNext = false := by simp [response, hlast]
    exact .single hx
  | case3 n readSize hne data hread left response hmore rest ih =>
    have hx : response.hasNext = true := by
      simpa [response] using Nat.pos_of_ne_zero hmore
    split_ifs at ih ⊢ with hok
    · exact ih.cons_next hx
    · intro c
      rw [terminalCount_cons_next c hx]
      exact ih c
  | case4 n readSize hne data hshort => exact fun c => rfl

lemma rpcSystemStorageReadProcess_answers (id : Nat) (opened : Bool) (size : Nat)
    (reads : Nat → List UInt8) (error : FSError) :
    AnswersOnce id (rpcSystemStorageReadProcess id opened size reads error) := by
  have hloop := rpcSystemStorageReadLoop_answers id reads size
  have herror : AnswersOnce id [rpcSendEmpty id (rpcSystemStorageGetError error)] := .single rfl
  simp only [rpcSystemStorageReadProcess]
  cases opened with
  | false => exact herror
  | true =>
    simp only [if_true]
    split_ifs at hloop ⊢
    · exact hloop
    · intro c
      rw [terminalCount_append, hloop c, Nat.zero_add]
      exact herror c

lemma rpcSystemStorageListLoop_answers (id fileCount : Nat) (md5 : Bool) (maxSize : Nat)
    (slots file : List RpcListFile) (entries : List RpcDirEntry) :
    AnswersOnce id (rpcSystemStorageListLoop id fileCount md5 maxSize slots file entries) := by
  induction entries generalizing slots file with
  | nil => exact .single rfl
  | cons e es ih =>
    simp only [rpcSystemStorageListLoop]
    split_ifs
    all_goals first | exact ih _ _ | exact (ih _ _).cons_next rfl

/-- Every handler but that of a write answers its command once. -/
theorem rpcSystemStorageProcess_answers (fileCount id : Nat) (content : RpcRequestContent)
    (hc : ∀ path data hasNext opened openError written writeError,
      content ≠ .write path data hasNext opened openError written writeError) :
    AnswersOnce id (rpcSystemStorageProcess fileCount id content) := by
  cases content with
  | list path md5 maxSize opened error entries =>
    simp only [rpcSystemStorageProcess, rpcSystemStorageListProcess]
    split_ifs
    · exact .single rfl
    · exact rpcSystemStorageListLoop_answers _ _ _ _ _ _ _
    · exact .single rfl
  | read opened size reads error => exact rpcSystemStorageReadProcess_answers _ _ _ _ _
  | md5sum path result =>
    simp only [rpcSystemStorageProcess, rpcSystemStorageMd5sumProcess]
    split_ifs
    · exact .single rfl
    · cases result <;> exact .single rfl
  | write path data hasNext opened openError written writeError =>
    exact absurd rfl (hc path data hasNext opened openError written writeError)
  | _ => exact .single rfl

/-! ### What a chunk does -/

namespace RpcStorageSystem

/-- What became of a chunk: more is expected, it was the last one, or it failed. The file at
`path` held `content`. -/
inductive ChunkOutcome (c : Nat) (path content data : List UInt8) :
    List RpcResponse × RpcStorageSystem → Prop where
  | more {s : RpcStorageSystem} {file : RpcFile} (hstate : s.state = .writing file)
      (hid : s.currentCommandId = c) (hpath : file.path = path)
      (hpos : file.pos = (content ++ data).length) (hfiles : s.files path = some (content ++ data)) :
      ChunkOutcome c path content data ([], s)
  | done {s : RpcStorageSystem} (hstate : s.state = .idle)
      (hfiles : s.files path = some (content ++ data)) :
      ChunkOutcome c path content data ([rpcSendEmpty c .ok], s)
  | failed {s : RpcStorageSystem} {status : PBCommandStatus} (hstate : s.state = .idle)
      (hstatus : status ≠ .ok) : ChunkOutcome c path content data ([rpcSendEmpty c status], s)

lemma resetState_state (s : RpcStorageSystem) (close : StorageFileClose (List UInt8)) (b : Bool) :
    (s.resetState close b).2.state = .idle := by
  unfold resetState
  cases hs : s.state with
  | idle => exact hs
  | writing file => rfl

@[simp] lemma resetState_files (s : RpcStorageSystem) (b : Bool) :
    (s.resetState .closed b).2.files = s.files := by
  unfold resetState
  cases hs : s.state with
  | idle => rfl
  | writing file => exact funext fun p => ite_self (s.files p)

lemma chunkStatus_ne_ok (error : FSError) :
    (if rpcSystemStorageGetError error = .ok then PBCommandStatus.errorStorageInternal
      else rpcSystemStorageGetError error) ≠ .ok := by
  cases error <;> decide

lemma writeChunk_outcome {s : RpcStorageSystem} {file : RpcFile} {content : List UInt8}
    (success : Bool) (data : List UInt8) (hasNext : Bool) (written : Nat) (writeError : FSError)
    {close : StorageFileClose (List UInt8)} (hstate : s.state = .writing file) (hpos : file.pos = content.length)
    (hfiles : success = true → s.files file.path = some content)
    (hclose : hasNext = false → success = true → data.length ≤ written → close = .closed) :
    ChunkOutcome s.currentCommandId file.path content data
      (s.writeChunk file success data hasNext written writeError close) := by
  unfold writeChunk
  cases success with
  | false => exact .failed (resetState_state _ _ _) (chunkStatus_ne_ok _)
  | true =>
    have hheld := hfiles rfl
    by_cases hdata : data = []
    · subst hdata
      simp only [ne_eq, not_true_eq_false, and_false, if_false, if_true]
      cases hasNext with
      | true => exact .more hstate rfl rfl (by rw [hpos, List.append_nil]) (by simpa using hheld)
      | false =>
        rw [hclose rfl rfl (Nat.zero_le _)]
        exact .done (resetState_state _ _ _) (by rw [resetState_files]; simpa using hheld)
    · simp only [hdata, ne_eq, not_false_eq_true, and_self, if_true]
      by_cases hfull : min written data.length = data.length
      · have hwrote : (s.writeFile file data written writeError).files file.path =
            some (content ++ data) := by
          have htake : data.take written = data := List.take_of_length_le (by omega)
          simp only [writeFile, if_true, hheld, Option.map_some, htake, hpos, overwrite_length]
        simp only [hfull, decide_true, if_true]
        cases hasNext with
        | true =>
          refine .more rfl rfl rfl ?_ hwrote
          rw [hfull, hpos, List.length_append]
        | false =>
          rw [hclose rfl rfl (hfull ▸ Nat.min_le_left _ _)]
          exact .done (resetState_state _ _ _) (by rw [resetState_files]; exact hwrote)
      · simp only [hfull, decide_false, Bool.false_eq_true, if_false]
        exact .failed (resetState_state _ _ _) (chunkStatus_ne_ok _)

end RpcStorageSystem

/-! ### The invariant -/

/-- Every command was answered once, except the write in progress, whose file holds what was
received for it. -/
structure RpcRun.Inv (r : RpcRun) : Prop where
  answered : ∀ c, answers c r.trace =
    if c ∈ commandIds r.trace ∧ ¬ r.system.InProgress c then 1 else 0
  writing : ∀ file, r.system.state = .writing file →
    r.system.currentCommandId ∈ commandIds r.trace ∧
      target r.system.currentCommandId r.trace = some file.path ∧
      r.system.files file.path = some (received r.system.currentCommandId r.trace) ∧
      file.pos = (received r.system.currentCommandId r.trace).length
  sound : TraceSound r.trace

lemma chunk_isSome_iff {e : RpcExchange} {c : Nat} :
    (e.chunk c).isSome → e.request.commandId = c := by
  unfold RpcExchange.chunk
  split
  · split_ifs with h
    · exact fun _ => h
    · exact fun h' => absurd h' Bool.false_ne_true
  · exact fun h' => absurd h' Bool.false_ne_true

lemma not_mem_commandIds {c : Nat} {tr : List RpcExchange} (h : c ∉ commandIds tr) :
    received c tr = [] ∧ target c tr = none := by
  induction tr with
  | nil => exact ⟨rfl, rfl⟩
  | cons e tr ih =>
    obtain ⟨hne, hmem⟩ : c ≠ e.request.commandId ∧ c ∉ commandIds tr := by
      simpa [commandIds] using h
    obtain ⟨hrec, htarget⟩ := ih hmem
    have hchunk : e.chunk c = none := by
      by_contra hsome
      exact hne (chunk_isSome_iff (Option.isSome_iff_ne_none.mpr hsome)).symm
    exact ⟨by rw [received, hrec, hchunk]; rfl, by rw [target, htarget, hchunk]; rfl⟩

lemma Failed.answers_pos {c : Nat} {tr : List RpcExchange} (h : Failed c tr) :
    0 < answers c tr := by
  obtain ⟨e, he, x, hx, hid, hlast, -⟩ := h
  have hcount : 0 < terminalCount c e.responses :=
    List.countP_pos_iff.mpr ⟨x, hx, by simp [hid, hlast]⟩
  induction tr with
  | nil => cases he
  | cons e' tr ih =>
    rcases List.mem_cons.mp he with rfl | hmem
    · exact Nat.add_pos_left hcount _
    · exact Nat.add_pos_right _ (ih hmem)

namespace RpcRun.Inv

open RpcStorageSystem

variable {r : RpcRun}

lemma start (files : RpcFiles) : (RpcRun.start files).Inv where
  answered c := rfl
  writing file hstate := by cases hstate
  sound := trivial

lemma mem_of_inProgress (h : r.Inv) {c : Nat} (hc : r.system.InProgress c) :
    c ∈ commandIds r.trace := by
  obtain ⟨hstate, rfl⟩ := hc
  cases hs : r.system.state with
  | idle => exact absurd hs hstate
  | writing file => exact (h.writing file hs).1

lemma terminalCount_resetState (s : RpcStorageSystem) (close : StorageFileClose (List UInt8)) (c : Nat) :
    terminalCount c (s.resetState close true).1 = if s.InProgress c then 1 else 0 := by
  cases hs : s.state with
  | idle => simp [resetState, InProgress, hs]
  | writing file =>
    have honce : AnswersOnce s.currentCommandId
        [rpcSendEmpty s.currentCommandId .errorContinuousCommandInterrupted] := .single rfl
    simpa [resetState, InProgress, hs, eq_comm] using honce c

lemma answers_cons (c : Nat) (e : RpcExchange) (tr : List RpcExchange) :
    answers c (e :: tr) = terminalCount c e.responses + answers c tr := rfl

/-- A handler that runs to its end, with the interruption of the write before it. -/
lemma other (h : r.Inv) {e : RpcExchange} {s : RpcStorageSystem} {rs : List RpcResponse}
    (hnew : e.request.commandId ∉ commandIds r.trace) (hchunk : ∀ c, e.chunk c = none)
    {close : StorageFileClose (List UInt8)} (hrs : e.responses = (r.system.resetState close true).1 ++ rs)
    (honce : AnswersOnce e.request.commandId rs) (hs : s.state = .idle) :
    RpcRun.Inv ⟨s, e :: r.trace⟩ where
  answered c := by
    have hidle : ¬ s.InProgress c := fun hp => hp.1 hs
    have hmem := h.mem_of_inProgress (c := c)
    rw [answers_cons, hrs, terminalCount_append, terminalCount_resetState, honce c, h.answered c]
    simp only [commandIds, List.map_cons, List.mem_cons] at *
    by_cases hc : c = e.request.commandId
    · subst hc
      have hp : ¬ r.system.InProgress e.request.commandId := fun hp => hnew (hmem hp)
      simp [hp, hnew, hidle]
    · by_cases hp : r.system.InProgress c
      · simp [hp, hmem hp, hc, hidle]
      · simp [hp, hc, hidle]
  writing file hstate := by rw [hs] at hstate; cases hstate
  sound := ⟨fun c hsome => absurd hsome (by rw [hchunk c]; exact Bool.false_ne_true), h.sound⟩

/-- A chunk, with the interruption of another write before it. -/
lemma chunk (h : r.Inv) {e : RpcExchange} {s : RpcStorageSystem} {pre rs : List RpcResponse}
    {c : Nat} {path data : List UInt8} {given : Option (List UInt8)}
    (hid : e.request.commandId = c) (hchunk : e.chunk c = some (given, data))
    (hsafe : r.system.InProgress c ∨ c ∉ commandIds r.trace)
    (hrs : e.responses = pre ++ rs)
    (hpre : ∀ c', terminalCount c' pre = if r.system.InProgress c' ∧ c' ≠ c then 1 else 0)
    (hpreOk : rpcSendEmpty c .ok ∉ pre)
    (houtcome : ChunkOutcome c path (received c r.trace) data (rs, s))
    (htarget : s.state ≠ .idle ∨ rpcSendEmpty c .ok ∈ rs → target c (e :: r.trace) = some path)
    (hafter : e.after = s.files) : RpcRun.Inv ⟨s, e :: r.trace⟩ := by
  have hreceived : received c (e :: r.trace) = received c r.trace ++ data := by
    rw [received, hchunk]
    rfl
  have hunanswered : answers c r.trace = 0 := by
    rw [h.answered c, if_neg]
    rintro ⟨hmem, hp⟩
    rcases hsafe with hin | hout
    · exact hp hin
    · exact hout hmem
  have hcount : ∀ c', answers c' (e :: r.trace) =
      terminalCount c' rs + if c' ∈ commandIds r.trace ∧ c' ≠ c then 1 else 0 := by
    intro c'
    rw [answers_cons, hrs, terminalCount_append, hpre c', h.answered c']
    have hmem := h.mem_of_inProgress (c := c')
    by_cases hc : c' = c
    · subst hc
      have hzero := h.answered c'
      rw [hunanswered] at hzero
      simp [← hzero]
    · by_cases hp : r.system.InProgress c'
      · simp [hp, hmem hp, hc]
        omega
      · simp [hp, hc]
  have hids : ∀ c', c' ∈ commandIds (e :: r.trace) ↔ c' = c ∨ c' ∈ commandIds r.trace := by
    intro c'
    rw [commandIds, List.map_cons, List.mem_cons, hid]
    rfl
  have honce : ∀ status, AnswersOnce c [rpcSendEmpty c status] := fun _ => .single rfl
  refine ⟨fun c' => ?_, fun file hstate => ?_, fun c' hsome => ?_, h.sound⟩
  · rw [hcount c']
    simp only [hids]
    cases houtcome with
    | more hs hcur hpath hpos hfiles =>
      have hwriting : s.state ≠ .idle := by
        rw [hs]
        exact RpcStorageState.noConfusion
      rcases eq_or_ne c' c with rfl | hc
      · have hp : s.InProgress c' := ⟨hwriting, hcur⟩
        simp [hp]
      · have hp : ¬ s.InProgress c' := fun hp => hc (hp.2.symm.trans hcur)
        simp [hp, hc]
    | done hs hfiles =>
      have hp : ¬ s.InProgress c' := fun hp => hp.1 hs
      rw [honce .ok c']
      rcases eq_or_ne c' c with rfl | hc
      · simp [hp]
      · simp [hp, hc]
    | failed hs hstatus =>
      have hp : ¬ s.InProgress c' := fun hp => hp.1 hs
      rw [honce _ c']
      rcases eq_or_ne c' c with rfl | hc
      · simp [hp]
      · simp [hp, hc]
  · have htarget' := htarget (.inl (by rw [hstate]; exact fun h' => by cases h'))
    cases houtcome with
    | more hs hcur hpath hpos hfiles =>
      obtain rfl : _ = file := RpcStorageState.writing.inj (hs.symm.trans hstate)
      simp only [hcur, hpath, hids, true_or, htarget', hreceived, hpos, hfiles, and_self]
    | done hs hfiles => rw [hs] at hstate; cases hstate
    | failed hs hstatus => rw [hs] at hstate; cases hstate
  · obtain rfl : c = c' := hid.symm.trans (chunk_isSome_iff hsome)
    refine ⟨fun hok => ?_, fun hfailed => absurd hfailed.answers_pos (by omega)⟩
    rw [hrs, List.mem_append, or_iff_right hpreOk] at hok
    refine ⟨path, htarget (.inr hok), ?_⟩
    rw [hafter, hreceived]
    cases houtcome with
    | more => cases hok
    | done hs hfiles => exact hfiles
    | failed hs hstatus =>
      have hsame := List.mem_singleton.mp hok
      exact absurd (congrArg RpcResponse.status hsame).symm hstatus

lemma refused (h : r.Inv) {e : RpcExchange} {c : Nat} {data : List UInt8}
    {given : Option (List UInt8)} {s : RpcStorageSystem} (hid : e.request.commandId = c)
    (hchunk : e.chunk c = some (given, data))
    (hsafe : r.system.InProgress c ∨ c ∉ commandIds r.trace ∧ r.system.state = .idle)
    (hrs : e.responses = [rpcSendEmpty c .errorStorageInvalidName]) (hs : s.state = .idle)
    (hafter : e.after = s.files) : RpcRun.Inv ⟨s, e :: r.trace⟩ := by
  have hnone : ∀ c', ¬ (r.system.InProgress c' ∧ c' ≠ c) := by
    rintro c' ⟨hp, hne⟩
    rcases hsafe with hin | ⟨-, hidle⟩
    · exact hne (hp.2.symm.trans hin.2)
    · exact hp.1 hidle
  have houtcome : ChunkOutcome c [] (received c r.trace) data
      ([rpcSendEmpty c .errorStorageInvalidName], s) := .failed hs (by decide)
  refine h.chunk hid hchunk (hsafe.imp_right And.left) (hrs.trans (List.nil_append _).symm)
    (fun c' => (if_neg (hnone c')).symm) List.not_mem_nil houtcome ?_ hafter
  rintro (hstate | hmem)
  · exact absurd hs hstate
  · exact absurd (List.mem_singleton.mp hmem) (by simp [rpcSendEmpty])

lemma step (h : r.Inv) (fileCount : Nat) (request : RpcRequest) (hsafe : RequestSafe r request) :
    RpcRun.Inv ((rpcRun fileCount).step r request).2 := by
  obtain ⟨id, content, effect, closeInterrupted, close⟩ := request
  cases content with
  | write given data hasNext opened openError written writeError =>
    obtain ⟨hsafe, hclose⟩ := hsafe
    simp only at hsafe hclose
    have hchunk : ∀ rs before after, RpcExchange.chunk
        ⟨⟨id, .write given data hasNext opened openError written writeError, effect,
          closeInterrupted, close⟩, rs, before, after⟩ id = some (given, data) := fun _ _ _ => if_pos rfl
    simp only [rpcRun, rpcStorage, process, writeProcess]
    by_cases hname : pathContainsOnlyAscii given = false
    · simp only [if_pos hname]
      refine h.refused rfl (hchunk _ _ _) ?_ rfl (resetState_state _ _ _) rfl
      rcases hsafe with hin | ⟨hout, hok | hidle⟩
      · exact .inl hin
      · exact absurd (hname.symm.trans hok) Bool.false_ne_true
      · exact .inr ⟨hout, hidle⟩
    · simp only [if_neg hname]
      have hcloses := hclose (by simpa using hname)
      obtain ⟨path, rfl⟩ : ∃ path, given = some path :=
        Option.ne_none_iff_exists'.mp fun hnone => hname (by rw [hnone]; rfl)
      have hsafe' : r.system.InProgress id ∨ id ∉ commandIds r.trace := hsafe.imp_right And.left
      by_cases hp : r.system.InProgress id
      · -- the chunk continues the write in progress
        have hcur := hp.2
        cases hstate : r.system.state with
        | idle => exact absurd hstate hp.1
        | writing file =>
          obtain ⟨-, htarget, hfiles, hpos⟩ := h.writing file hstate
          rw [hcur] at htarget hfiles hpos
          have houtcome := writeChunk_outcome true data hasNext written writeError hstate hpos
            (fun _ => hfiles) fun hlast _ => hcloses hlast (.inl hp)
          rw [hcur] at houtcome
          simp only [ne_eq, hcur, not_true_eq_false, if_false, hstate, List.nil_append]
          refine h.chunk rfl (hchunk _ _ _) hsafe' (List.nil_append _).symm ?_ List.not_mem_nil
            houtcome (fun _ => ?_) rfl
          · intro c'
            rw [if_neg]
            · rfl
            · exact fun hc => hc.2 (hc.1.2.symm.trans hcur)
          · rw [target, htarget]
            rfl
      · -- the chunk begins a write
        have hnew : id ∉ commandIds r.trace := hsafe'.resolve_left hp
        obtain ⟨hempty, hnone⟩ := not_mem_commandIds hnew
        set interrupted := if id ≠ r.system.currentCommandId then
          r.system.resetState closeInterrupted true else ([], r.system) with hinterrupted
        have hidle : interrupted.2.state = .idle := by
          rw [hinterrupted]
          split_ifs with hne
          · exact resetState_state _ _ _
          · by_contra hw
            exact hp ⟨hw, (not_not.mp hne).symm⟩
        have hpre : ∀ c', terminalCount c' interrupted.1 =
            if r.system.InProgress c' ∧ c' ≠ id then 1 else 0 := by
          intro c'
          have hne' : r.system.InProgress c' → c' ≠ id := by
            rintro hp' rfl
            exact hp hp'
          rw [hinterrupted]
          split_ifs with hne hc hc
          · rw [terminalCount_resetState, if_pos hc.1]
          · rw [terminalCount_resetState, if_neg fun hp' => hc ⟨hp', hne' hp'⟩]
          · exact absurd (hc.1.2.symm.trans (not_not.mp hne).symm) hc.2
          · rfl
        have hpreOk : rpcSendEmpty id .ok ∉ interrupted.1 := by
          intro hmem
          have hcount : 0 < terminalCount id interrupted.1 :=
            List.countP_pos_iff.mpr ⟨_, hmem, by simp [rpcSendEmpty]⟩
          rw [hpre id, if_neg fun hc => hc.2 rfl] at hcount
          exact Nat.lt_irrefl _ hcount
        have hcontent : opened = true →
            (interrupted.2.openFile id path opened openError).files path = some [] := by
          intro hopened
          simp [openFile, hopened]
        have houtcome := writeChunk_outcome (s := interrupted.2.openFile id path opened openError)
          opened data hasNext written writeError rfl rfl hcontent
          fun hlast hopened => hcloses hlast (.inr hopened)
        simp only [hidle, Option.getD_some]
        rw [← hempty] at houtcome
        refine h.chunk rfl (hchunk _ _ _) hsafe' rfl hpre hpreOk houtcome (fun _ => ?_) rfl
        rw [target, hnone, hchunk]
        rfl
  | _ =>
    refine h.other hsafe (fun c => rfl) rfl
      (rpcSystemStorageProcess_answers _ _ _ (by intros; exact fun heq => by cases heq)) ?_
    exact resetState_state _ _ _

end RpcRun.Inv

/-- A chunk of a write to the file `f`, with the bytes that arrive. -/
def rpcWriteChunk (commandId : Nat) (data : List UInt8) (hasNext : Bool) (written : Nat)
    (writeError : FSError) (close : StorageFileClose (List UInt8)) : RpcRequest where
  commandId := commandId
  content := .write (some [0x66]) data hasNext true .ok written writeError
  effect := id
  closeInterrupted := .failed none
  close := close

end FlipperZero
