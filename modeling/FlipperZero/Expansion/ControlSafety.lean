import FlipperZero.Expansion.Control

/-!
# When the expansion control thread is safe

The messages of workers carry no identity, so a message that outlives its worker is taken for
one of the next worker; and a worker that finds the queue full while the control thread joins
it is never woken. `StepSafe` excludes the steps that prepare these two accidents: starting a
worker while a message of an earlier one is still queued, and using up the queue entries that
a worker being joined may still need. In every run of safe steps, messages of workers concern
their sender only, the worker is allocated exactly while the state says so and freed once after
its thread has ended, and no join waits for a blocked worker.
-/

namespace FlipperZero

open Foundation

namespace Expansion

/-- The thread of the worker that `instance->worker` points to. -/
def currentThread (s : Expansion) : ExpansionWorkerThread := (s.workers s.worker).thread

/-- The worker of the instance exists, if only until the handler in progress has freed it. -/
def Busy (s : Expansion) : Prop := s.HasWorker ∨ s.thread ≠ .waiting

/-- A worker instance that was started and not freed. -/
def Allocated (s : Expansion) (w : Nat) : Prop := w < s.workerCount ∧ (s.workers w).freed = 0

/-- A handler that joins the worker leaves the entries that the worker may still need. -/
def LeavesRoom (s : Expansion) (queued : Nat) : Prop :=
  queued + s.currentThread.postsLeft ≤ expansionControlQueueSize

/-- The condition on handling a message with the rest of the queue behind it. -/
def HandleSafe (s : Expansion) (rest : List ExpansionMessage) : ExpansionMessage → Prop
  | .moduleConnected => s.state = .enabled → ∀ m ∈ rest, m.sender = none
  | .disable | .setListenSerial _ => s.HasWorker → s.LeavesRoom rest.length
  | _ => True

/-- The condition on a step and the state before it under which nothing goes wrong. -/
def StepSafe (s : Expansion) : ExpansionEvent → Prop
  | .call _ => s.thread ≠ .waiting → s.LeavesRoom (s.queue.length + 1)
  | .handle =>
    match s.queue with
    | []        => True
    | m :: rest => s.HandleSafe rest m
  | .detect | .joined | .worker _ _ => True

instance (s : Expansion) (n : Nat) : Decidable (s.LeavesRoom n) :=
  inferInstanceAs (Decidable (_ ≤ _))

instance (s : Expansion) (rest : List ExpansionMessage) :
    ∀ m : ExpansionMessage, Decidable (s.HandleSafe rest m)
  | .moduleConnected => inferInstanceAs (Decidable (_ → _))
  | .disable | .setListenSerial _ => inferInstanceAs (Decidable (_ → _))
  | .enable | .moduleDisconnected _ | .connectionEstablished _ | .isConnected => .isTrue trivial

instance (s : Expansion) : ∀ e : ExpansionEvent, Decidable (s.StepSafe e)
  | .call _ => inferInstanceAs (Decidable (_ → _))
  | .handle => by
    unfold StepSafe
    exact match s.queue with
      | []        => .isTrue trivial
      | m :: rest => inferInstanceAs (Decidable (s.HandleSafe rest m))
  | .detect | .joined | .worker _ _ => .isTrue trivial

/-- What must hold in every state. -/
structure Safe (s : Expansion) : Prop where
  /-- Handling a message of a worker leaves everything as it is, or that worker is the current
  one. -/
  ownMessages : ∀ m rest w, s.thread = .waiting → s.queue = m :: rest → m.sender = some w →
    (s.HasWorker ∧ w = s.worker) ∨ { s with queue := rest }.handle m = { s with queue := rest }
  /-- Between two messages, a worker is allocated exactly in the states that say so. -/
  allocated : s.thread = .waiting → ∀ w, s.Allocated w ↔ s.HasWorker ∧ w = s.worker
  /-- A worker is freed at most once and after its thread has ended. -/
  freedOnce : ∀ w < s.workerCount, (s.workers w).freed ≤ 1 ∧
    (0 < (s.workers w).freed → (s.workers w).thread = .ended)
  /-- The receive buffer of a worker is freed only when its thread uses it no more. -/
  rxBuf : ∀ w < s.workerCount, (s.workers w).rxBufFreed = true →
    (s.workers w).thread = .returning ∨ (s.workers w).thread = .ended
  /-- The control thread does not join a worker that waits for space in the queue. -/
  noDeadlock : s.thread ≠ .waiting → s.currentThread.IsPosting → s.HasSpace

/-! ### The invariant -/

/-- The invariant of safe runs. -/
structure Inv (s : Expansion) : Prop where
  queue_le : s.queue.length ≤ expansionControlQueueSize
  current : s.Busy → s.worker + 1 = s.workerCount
  old : ∀ w < s.workerCount, (s.Busy → w ≠ s.worker) →
    (s.workers w).thread = .ended ∧ (s.workers w).freed = 1
  alive : s.Busy → (s.workers s.worker).freed = 0
  senders : s.Busy → ∀ m ∈ s.queue, ∀ w, m.sender = some w → w = s.worker
  exited : s.Busy → .moduleDisconnected s.worker ∈ s.queue → s.currentThread.postsLeft = 0
  rxBuf : s.Busy → (s.workers s.worker).rxBufFreed = true → s.currentThread.postsLeft = 0
  stopping : ∀ h, s.thread = .stopping h → s.HasWorker ∧ h ≠ .moduleDisconnected
  leaving : s.thread = .freeing .moduleDisconnected → s.state = .enabled
  room : s.thread ≠ .waiting → s.LeavesRoom s.queue.length
  quiet : s.Busy → s.listening = none

lemma postsLeft_eq_zero {t : ExpansionWorkerThread} :
    t.postsLeft = 0 ↔ t = .returning ∨ t = .ended := by
  cases t with
  | receiving c => cases c <;> simp [ExpansionWorkerThread.postsLeft]
  | _ => simp [ExpansionWorkerThread.postsLeft]

lemma ExpansionWorkerThread.IsPosting.postsLeft {t : ExpansionWorkerThread} (h : t.IsPosting) :
    0 < t.postsLeft := by
  rcases h with rfl | rfl <;> decide

lemma Inv.init (uartIndex : Option FuriHalSerialId) : Inv (init uartIndex) := by
  have hidle : ¬ (Expansion.init uartIndex).Busy := by simp [Busy, HasWorker, Expansion.init]
  exact {
    queue_le := Nat.zero_le _
    current := fun h => absurd h hidle
    old := fun w hw => absurd hw (Nat.not_lt_zero w)
    alive := fun h => absurd h hidle
    senders := fun h => absurd h hidle
    exited := fun h => absurd h hidle
    rxBuf := fun h => absurd h hidle
    stopping := fun h ht => by simp [Expansion.init] at ht
    leaving := fun ht => by simp [Expansion.init] at ht
    room := fun ht => absurd rfl ht
    quiet := fun h => absurd h hidle }

variable {s : Expansion}

lemma Inv.safe (h : Inv s) : Safe s where
  ownMessages := by
    intro m rest w hwait hqueue hsender
    by_cases hworker : s.HasWorker
    · exact .inl ⟨hworker, h.senders (.inl hworker) m (hqueue ▸ List.mem_cons_self) w hsender⟩
    · refine .inr ?_
      have hnone : ¬ ({ s with queue := rest } : Expansion).HasWorker := hworker
      cases m with
      | moduleDisconnected => exact if_neg hnone
      | connectionEstablished => exact if_neg hnone
      | _ => simp [ExpansionMessage.sender] at hsender
  allocated := by
    intro hwait w
    constructor
    · rintro ⟨hw, hfreed⟩
      by_contra hno
      have := (h.old w hw fun hbusy heq => hno ⟨hbusy.resolve_right fun hne => hne hwait, heq⟩).2
      omega
    · rintro ⟨hworker, rfl⟩
      have := h.current (.inl hworker)
      exact ⟨by omega, h.alive (.inl hworker)⟩
  freedOnce := by
    intro w hw
    by_cases hcur : s.Busy ∧ w = s.worker
    · obtain ⟨hbusy, rfl⟩ := hcur
      have := h.alive hbusy
      exact ⟨by omega, fun hpos => by omega⟩
    · obtain ⟨hended, hfreed⟩ := h.old w hw fun hbusy heq => hcur ⟨hbusy, heq⟩
      exact ⟨by omega, fun _ => hended⟩
  rxBuf := by
    intro w hw hfreed
    by_cases hcur : s.Busy ∧ w = s.worker
    · obtain ⟨hbusy, rfl⟩ := hcur
      exact postsLeft_eq_zero.mp (h.rxBuf hbusy hfreed)
    · exact .inr (h.old w hw fun hbusy heq => hcur ⟨hbusy, heq⟩).1
  noDeadlock := by
    intro hjoin hposting
    have hroom := h.room hjoin
    have hpos := ExpansionWorkerThread.IsPosting.postsLeft hposting
    simp only [LeavesRoom, HasSpace] at hroom ⊢
    omega

/-! ### Steps of workers -/

lemma Inv.moving (h : Inv s) {w : Nat} (hw : w < s.workerCount)
    (hmoves : (s.workers w).thread ≠ .ended) : s.Busy ∧ w = s.worker := by
  by_contra hno
  exact hmoves (h.old w hw fun hbusy heq => hno ⟨hbusy, heq⟩).1

lemma Inv.workerMoves (h : Inv s) (hbusy : s.Busy) {t : ExpansionWorkerThread}
    (posted : List ExpansionMessage)
    (hleft : posted.length + t.postsLeft ≤ s.currentThread.postsLeft)
    (hspace : s.queue.length + posted.length ≤ expansionControlQueueSize)
    (hsender : ∀ m ∈ posted, m.sender = some s.worker)
    (hexit : .moduleDisconnected s.worker ∈ posted → t.postsLeft = 0) :
    Inv { s.setWorker s.worker { s.workers s.worker with thread := t } with
      queue := s.queue ++ posted } := by
  exact {
    queue_le := by simpa using hspace
    current := h.current
    old := fun w hw hne => by
      have hne' : w ≠ s.worker := hne hbusy
      simp only [setWorker_other _ _ _ hne']
      exact h.old w hw hne
    alive := fun _ => by simpa using h.alive hbusy
    senders := fun _ m hm w hmw => by
      rcases List.mem_append.mp hm with hold | hnew
      · exact h.senders hbusy m hold w hmw
      · exact Option.some.inj (hmw.symm.trans (hsender m hnew))
    exited := fun _ hm => by
      simp only [currentThread, setWorker_worker, setWorker_self] at hm ⊢
      rcases List.mem_append.mp hm with hold | hnew
      · have := h.exited hbusy hold; omega
      · exact hexit hnew
    rxBuf := fun _ hfreed => by
      simp only [setWorker_worker, setWorker_self] at hfreed
      have := h.rxBuf hbusy hfreed
      simp only [currentThread, setWorker_worker, setWorker_self]
      omega
    stopping := h.stopping
    leaving := h.leaving
    room := fun hjoin => by
      have := h.room hjoin
      simp only [LeavesRoom, currentThread, setWorker_worker, setWorker_self,
        List.length_append] at this hleft ⊢
      omega
    quiet := h.quiet }

lemma Inv.workerStep (h : Inv s) {w : Nat} (hw : w < s.workerCount) {a : ExpansionWorkerStep}
    {s' : Expansion} (hstep : s.workerStep w a = some s') : Inv s' := by
  have hmoves : (s.workers w).thread ≠ .ended := by
    intro hended
    simp [Expansion.workerStep, hended] at hstep
  obtain ⟨hbusy, rfl⟩ := h.moving hw hmoves
  -- A step without a message.
  have hquiet : ∀ t : ExpansionWorkerThread, t.postsLeft ≤ s.currentThread.postsLeft →
      Inv (s.setWorker s.worker { s.workers s.worker with thread := t }) := fun t ht => by
    have := h.workerMoves hbusy (t := t) [] (by simpa using ht)
      (by simpa using h.queue_le) (by simp) (by simp)
    rw [List.append_nil] at this
    exact this
  -- A step that puts a message into the queue.
  have hput : ∀ (t : ExpansionWorkerThread) (m : ExpansionMessage), s.HasSpace →
      t.postsLeft + 1 ≤ s.currentThread.postsLeft → m.sender = some s.worker →
      (m = .moduleDisconnected s.worker → t.postsLeft = 0) →
      Inv ((s.setWorker s.worker { s.workers s.worker with thread := t }).put m) :=
    fun t m hspace ht hm hexit =>
      h.workerMoves hbusy (t := t) [m] (by simp; omega) (Nat.succ_le_of_lt hspace)
        (by simpa using hm) (by simpa [eq_comm] using hexit)
  simp only [Expansion.workerStep] at hstep
  cases ht : (s.workers s.worker).thread with
  | receiving c =>
    have hleft : 1 ≤ s.currentThread.postsLeft := by
      rw [currentThread, ht]
      cases c <;> decide
    cases a with
    | connect =>
      cases c with
      | false =>
        rw [ht] at hstep
        obtain rfl := Option.some.inj hstep
        exact hquiet _ (by rw [currentThread, ht]; decide)
      | true => simp [ht] at hstep
    | fail =>
      simp only [ht] at hstep
      obtain rfl := Option.some.inj hstep
      exact hquiet _ hleft
    | stop =>
      simp only [ht] at hstep
      split_ifs at hstep
      obtain rfl := Option.some.inj hstep
      exact hquiet _ (Nat.zero_le _)
    | put | finish => simp [ht] at hstep
  | postingConnected =>
    cases a with
    | put =>
      simp only [ht] at hstep
      split_ifs at hstep with hspace
      obtain rfl := Option.some.inj hstep
      exact hput _ _ hspace (by rw [currentThread, ht]; decide) rfl (by simp)
    | _ => simp [ht] at hstep
  | postingExit =>
    cases a with
    | put =>
      simp only [ht] at hstep
      split_ifs at hstep with hspace
      obtain rfl := Option.some.inj hstep
      exact hput _ _ hspace (by rw [currentThread, ht]; decide) rfl fun _ => rfl
    | _ => simp [ht] at hstep
  | returning =>
    cases a with
    | finish =>
      simp only [ht] at hstep
      obtain rfl := Option.some.inj hstep
      exact hquiet _ (Nat.zero_le _)
    | _ => simp [ht] at hstep
  | ended => exact absurd ht hmoves

/-! ### Steps of the control thread -/

lemma Inv.take (h : Inv s) {m : ExpansionMessage} {rest : List ExpansionMessage}
    (hqueue : s.queue = m :: rest) : Inv { s with queue := rest } where
  queue_le := by have := h.queue_le; simp only [hqueue, List.length_cons] at this ⊢; omega
  current := h.current
  old := h.old
  alive := h.alive
  senders hbusy m' hm := h.senders hbusy m' (hqueue ▸ List.mem_cons_of_mem _ hm)
  exited hbusy hm := h.exited hbusy (hqueue ▸ List.mem_cons_of_mem _ hm)
  rxBuf := h.rxBuf
  stopping := h.stopping
  leaving := h.leaving
  room hjoin := by
    have := h.room hjoin
    simp only [LeavesRoom, hqueue, List.length_cons, currentThread] at this ⊢
    omega
  quiet := h.quiet

/-- A service without a worker may change its state and listen. -/
lemma Inv.idle (h : Inv s) (hidle : ¬ s.Busy) {s' : Expansion} (hidle' : ¬ s'.Busy)
    (hqueue : s'.queue = s.queue) (hcount : s'.workerCount = s.workerCount)
    (hworkers : s'.workers = s.workers) (hthread : s'.thread = .waiting) : Inv s' where
  queue_le := hqueue ▸ h.queue_le
  current hbusy := absurd hbusy hidle'
  old w hw _ := by
    rw [hworkers]
    exact h.old w (hcount ▸ hw) fun hbusy => absurd hbusy hidle
  alive hbusy := absurd hbusy hidle'
  senders hbusy := absurd hbusy hidle'
  exited hbusy := absurd hbusy hidle'
  rxBuf hbusy := absurd hbusy hidle'
  stopping _ ht := by rw [hthread] at ht; cases ht
  leaving ht := by rw [hthread] at ht; cases ht
  room hjoin := absurd hthread hjoin
  quiet hbusy := absurd hbusy hidle'

lemma Inv.moduleConnected (h : Inv s) (hwait : s.thread = .waiting)
    (hnone : s.state = .enabled → ∀ m ∈ s.queue, m.sender = none) :
    Inv s.handlerModuleConnected := by
  simp only [handlerModuleConnected]
  split_ifs with hstate
  · exact h
  have henabled : s.state = .enabled := not_not.mp hstate
  have hidle : ¬ s.Busy := by
    rintro (hworker | hjoin)
    · rcases hworker with hr | hc
      · rw [henabled] at hr; cases hr
      · rw [henabled] at hc; cases hc
    · exact hjoin hwait
  exact {
    queue_le := h.queue_le
    current := fun _ => rfl
    old := fun w hw hne => by
      have hne' : w ≠ s.workerCount := hne (.inl (.inl rfl))
      have hlt : w < s.workerCount := Nat.lt_of_le_of_ne (Nat.le_of_lt_succ hw) hne'
      simp only [setWorker_other _ _ _ hne']
      exact h.old w hlt fun hbusy => absurd hbusy hidle
    alive := fun _ => by simp [expansionWorkerStart]
    senders := fun _ m hm w hw => by
      rw [hnone henabled m hm] at hw
      cases hw
    exited := fun _ hm => absurd (hnone henabled _ hm) (by simp [ExpansionMessage.sender])
    rxBuf := fun _ hfreed => by simp [expansionWorkerStart] at hfreed
    stopping := fun _ ht => by simp [hwait] at ht
    leaving := fun ht => by simp [hwait] at ht
    room := fun hjoin => absurd hwait hjoin
    quiet := fun _ => rfl }

lemma Inv.join (h : Inv s) (hbusy : s.Busy) {x : ExpansionWorker} {state : ExpansionState}
    {thread : ExpansionControlThread} (hthread : x.thread = s.currentThread)
    (hfreed : x.freed = (s.workers s.worker).freed)
    (hrxBuf : x.rxBufFreed = true → s.currentThread.postsLeft = 0)
    (hjoin : thread ≠ .waiting)
    (hleave : thread = .freeing .moduleDisconnected → state = .enabled)
    (hstop : ∀ handler, thread = .stopping handler →
      (state = .running ∨ state = .connectionEstablished) ∧ handler ≠ .moduleDisconnected)
    (hroom : s.LeavesRoom s.queue.length) :
    Inv { s.setWorker s.worker x with state := state, thread := thread } where
  queue_le := h.queue_le
  current _ := h.current hbusy
  old w hw hne := by
    have hne' : w ≠ s.worker := hne (.inr hjoin)
    simp only [setWorker_other _ _ _ hne']
    exact h.old w hw fun _ => hne'
  alive _ := by simp only [setWorker_worker, setWorker_self, hfreed]; exact h.alive hbusy
  senders _ := h.senders hbusy
  exited _ hm := by
    simp only [currentThread, setWorker_worker, setWorker_self, hthread]
    exact h.exited hbusy hm
  rxBuf _ hx := by
    simp only [setWorker_worker, setWorker_self] at hx
    simp only [currentThread, setWorker_worker, setWorker_self, hthread]
    exact hrxBuf hx
  stopping := hstop
  leaving := hleave
  room _ := by
    simp only [LeavesRoom, currentThread, setWorker_worker, setWorker_self, hthread]
    exact hroom
  quiet _ := h.quiet hbusy

lemma Inv.workerStop (h : Inv s) (hworker : s.HasWorker) (hroom : s.LeavesRoom s.queue.length)
    {handler : ExpansionJoin} (hhandler : handler ≠ .moduleDisconnected) :
    Inv (s.workerStop handler) :=
  @Inv.join s h (.inl hworker) { s.workers s.worker with stopFlag := true } s.state _ rfl
    rfl (h.rxBuf (.inl hworker)) (by simp) (by simp)
    (fun _ heq => ⟨hworker, by cases heq; exact hhandler⟩) hroom

lemma Inv.workerFree (h : Inv s) (hbusy : s.Busy) (hdone : s.currentThread.postsLeft = 0)
    {state : ExpansionState} {handler : ExpansionJoin}
    (hleave : handler = .moduleDisconnected → state = .enabled) :
    Inv ({ s with state := state }.workerFree handler) :=
  h.join hbusy (x := { s.workers s.worker with rxBufFreed := true }) rfl rfl (fun _ => hdone)
    (by simp) (fun heq => hleave (by simpa using heq)) (by simp) (by
      have := h.queue_le
      simp only [LeavesRoom, hdone]
      omega)

lemma Inv.isConnected (h : Inv s) : Inv s.handlerIsConnected :=
  { h with }

lemma Inv.connectionEstablished (h : Inv s) (hwait : s.thread = .waiting) :
    Inv s.handlerConnectionEstablished := by
  simp only [handlerConnectionEstablished]
  split_ifs with hworker
  · have hbusy : s.Busy := .inl hworker
    exact {
      queue_le := h.queue_le
      current := fun _ => h.current hbusy
      old := fun w hw hne => h.old w hw fun _ => hne (.inl (.inr rfl))
      alive := fun _ => h.alive hbusy
      senders := fun _ => h.senders hbusy
      exited := fun _ => h.exited hbusy
      rxBuf := fun _ => h.rxBuf hbusy
      stopping := fun _ ht => by simp [hwait] at ht
      leaving := fun ht => by simp [hwait] at ht
      room := h.room
      quiet := fun _ => h.quiet hbusy }
  · exact h

lemma Inv.handle (h : Inv s) {m : ExpansionMessage} {rest : List ExpansionMessage}
    (hwait : s.thread = .waiting) (hqueue : s.queue = m :: rest) (hsafe : s.HandleSafe rest m) :
    Inv ({ s with queue := rest }.handle m) := by
  have h' := h.take hqueue
  cases m with
  | enable =>
    simp only [Expansion.handle, handlerEnable]
    split_ifs with hstate
    · exact h'
    · split
      · have hidle : ¬ s.Busy := by
          rintro (hworker | hjoin)
          · rcases hworker with hr | hc <;> simp_all
          · exact hjoin hwait
        exact h'.idle hidle (by simp [Busy, HasWorker, hwait]) rfl rfl rfl hwait
      · exact h'
  | disable =>
    simp only [Expansion.handle, handlerDisable]
    split_ifs with hstate hworker
    · exact h'
    · exact h'.workerStop hworker (hsafe hworker) (by simp)
    · have hidle : ¬ s.Busy := by
        rintro (hw | hjoin)
        · exact hworker hw
        · exact hjoin hwait
      exact h'.idle hidle (by simp [Busy, HasWorker, hwait]) rfl rfl rfl hwait
  | setListenSerial id =>
    simp only [Expansion.handle, handlerSetListenSerial]
    split_ifs with hworker
    · exact h'.workerStop hworker (hsafe hworker) (by simp)
    · have hidle : ¬ s.Busy := by
        rintro (hw | hjoin)
        · exact hworker hw
        · exact hjoin hwait
      exact h'.idle hidle (by simp [Busy, HasWorker, hwait]) rfl rfl rfl hwait
  | moduleConnected => exact h'.moduleConnected hwait hsafe
  | moduleDisconnected w =>
    simp only [Expansion.handle, handlerModuleDisconnected]
    split_ifs with hworker
    · have hbusy : s.Busy := .inl hworker
      obtain rfl := h.senders hbusy _ (hqueue ▸ List.mem_cons_self) w rfl
      have hdone := h.exited hbusy (hqueue ▸ List.mem_cons_self)
      exact h'.workerFree hbusy hdone fun _ => rfl
    · exact h'
  | connectionEstablished w => exact h'.connectionEstablished hwait
  | isConnected => exact h'.isConnected

lemma Inv.freed (h : Inv s) {handler : ExpansionJoin} (hthread : s.thread = .freeing handler)
    (hended : s.currentThread = .ended) :
    Inv ({ s.setWorker s.worker { s.workers s.worker with
      freed := (s.workers s.worker).freed + 1 } with thread := .waiting }.afterFree handler) := by
  have hbusy : s.Busy := .inr (by rw [hthread]; simp)
  have hidle : ¬ ({ s.setWorker s.worker { s.workers s.worker with
      freed := (s.workers s.worker).freed + 1 } with
        thread := .waiting }.afterFree handler).Busy := by
    cases handler with
    | moduleDisconnected => simp [Busy, HasWorker, afterFree, h.leaving hthread]
    | _ => simp [Busy, HasWorker, afterFree]
  have hwaiting : ({ s.setWorker s.worker { s.workers s.worker with
      freed := (s.workers s.worker).freed + 1 } with
        thread := .waiting }.afterFree handler).thread = .waiting := by
    cases handler <;> rfl
  exact {
    queue_le := by cases handler <;> exact h.queue_le
    current := fun hb => absurd hb hidle
    old := fun w hw _ => by
      have hw' : w < s.workerCount := by cases handler <;> exact hw
      have hworkers : ({ s.setWorker s.worker { s.workers s.worker with
          freed := (s.workers s.worker).freed + 1 } with
            thread := .waiting }.afterFree handler).workers w =
          (s.setWorker s.worker { s.workers s.worker with
            freed := (s.workers s.worker).freed + 1 }).workers w := by
        cases handler <;> rfl
      rw [hworkers]
      by_cases hcur : w = s.worker
      · rw [hcur, setWorker_self]
        exact ⟨hended, by rw [h.alive hbusy]⟩
      · rw [setWorker_other _ _ _ hcur]
        exact h.old w hw' fun _ => hcur
    alive := fun hb => absurd hb hidle
    senders := fun hb => absurd hb hidle
    exited := fun hb => absurd hb hidle
    rxBuf := fun hb => absurd hb hidle
    stopping := fun _ ht => by rw [hwaiting] at ht; cases ht
    leaving := fun ht => by rw [hwaiting] at ht; cases ht
    room := fun hjoin => absurd hwaiting hjoin
    quiet := fun hb => absurd hb hidle }

lemma Inv.joined (h : Inv s) {s' : Expansion} (hstep : s.joined = some s') : Inv s' := by
  simp only [Expansion.joined] at hstep
  split_ifs at hstep with hended
  cases hthread : s.thread with
  | waiting => simp [hthread] at hstep
  | stopping handler =>
    simp only [hthread] at hstep
    obtain rfl := Option.some.inj hstep
    obtain ⟨hworker, hhandler⟩ := h.stopping handler hthread
    exact h.workerFree (.inl hworker) (by rw [currentThread, hended]; rfl)
      fun heq => absurd heq hhandler
  | freeing handler =>
    simp only [hthread] at hstep
    obtain rfl := Option.some.inj hstep
    exact h.freed hthread hended

lemma Inv.put (h : Inv s) {m : ExpansionMessage} (hspace : s.HasSpace) (hm : m.sender = none)
    (hroom : s.thread ≠ .waiting → s.LeavesRoom (s.queue.length + 1)) : Inv (s.put m) where
  queue_le := by simpa [Expansion.put] using Nat.succ_le_of_lt hspace
  current := h.current
  old := h.old
  alive := h.alive
  senders hbusy m' hm' w hw := by
    rcases List.mem_append.mp hm' with hold | hnew
    · exact h.senders hbusy m' hold w hw
    · rw [List.mem_singleton.mp hnew, hm] at hw
      cases hw
  exited hbusy hm' := by
    rcases List.mem_append.mp hm' with hold | hnew
    · exact h.exited hbusy hold
    · rw [← List.mem_singleton.mp hnew] at hm
      cases hm
  rxBuf := h.rxBuf
  stopping := h.stopping
  leaving := h.leaving
  room hjoin := by
    have := hroom hjoin
    simpa only [LeavesRoom, currentThread, Expansion.put, List.length_append,
      List.length_singleton] using this
  quiet := h.quiet

lemma Inv.step (h : Inv s) {e : ExpansionEvent} {s' : Expansion} (hsafe : s.StepSafe e)
    (hstep : expansionControl.step s e = some s') : Inv s' := by
  simp only [expansionControl] at hstep
  cases e with
  | call m =>
    simp only [Expansion.step] at hstep
    split_ifs at hstep with hpost
    obtain rfl := Option.some.inj hstep
    exact h.put hpost.2.2 hpost.1 hsafe
  | detect =>
    simp only [Expansion.step] at hstep
    split_ifs at hstep with hsilent hspace
    · obtain rfl := Option.some.inj hstep
      refine h.put hspace rfl fun hjoin => absurd (h.quiet (.inr hjoin)) hsilent
    · obtain rfl := Option.some.inj hstep
      exact h
  | handle =>
    simp only [Expansion.step] at hstep
    split at hstep
    · rename_i m rest hwait hqueue
      obtain rfl := Option.some.inj hstep
      simp only [StepSafe, hqueue] at hsafe
      exact h.handle hwait hqueue hsafe
    · cases hstep
  | joined => exact h.joined hstep
  | worker w a =>
    simp only [Expansion.step] at hstep
    split_ifs at hstep with hw
    exact h.workerStep hw hstep

end Expansion

/-- In every run of safe steps from the start of the service, every state reached is safe. -/
theorem expansionControl_safe (uartIndex : Option FuriHalSerialId) (s : Expansion)
    (hrun : expansionControl.Reaches Expansion.StepSafe (.init uartIndex) s) : s.Safe :=
  (hrun.invariant (Expansion.Inv.init uartIndex) fun _ _ _ h hsafe hstep => h.step hsafe hstep).safe

/-- A module connects, exits and connects again: both workers were allocated in turn. -/
theorem expansionControl_safe_reconnect :
    ∃ s, expansionControl.Reaches Expansion.StepSafe (.init (some .usart)) s ∧
      (s.workers 0).freed = 1 ∧ s.workerCount = 2 ∧ s.Safe := by
  have hview : (expansionControl.replay Expansion.StepSafe (.init (some .usart))
      [.call .enable, .handle, .detect, .handle, .worker 0 .connect, .worker 0 .put, .handle,
        .worker 0 .fail, .worker 0 .put, .handle, .worker 0 .finish, .joined, .detect,
        .handle]).map (fun s => ((s.workers 0).freed, s.workerCount)) = some (1, 2) := by
    decide +kernel
  obtain ⟨s, hs, hv⟩ := Option.map_eq_some_iff.mp hview
  have hrun := System.Reaches.of_replay .refl hs
  exact ⟨s, hrun, congrArg Prod.fst hv, congrArg Prod.snd hv,
    expansionControl_safe (some .usart) s hrun⟩

/-- Two accidents. In the first, two detections and a change of the port are queued; the first
worker exits before it is stopped, and its message frees the second worker, whose thread is
still receiving. In the second, the queue is full when a worker exits; the handler of `Disable`
takes one message, another caller uses the free entry, and the control thread joins a worker
that waits for an entry. -/
theorem expansionControl_unsafe :
    (∃ s, expansionControl.Reaches (fun _ _ => True) (.init (some .usart)) s ∧
      s.thread = .freeing .moduleDisconnected ∧ s.worker = 1 ∧
        s.workers 1 = { expansionWorkerStart with rxBufFreed := true } ∧ ¬ s.Safe) ∧
    ∃ s, expansionControl.Reaches (fun _ _ => True) (.init (some .usart)) s ∧
      s.thread = .stopping .disable ∧ s.worker = 0 ∧ (s.workers 0).thread = .postingExit ∧
        s.queue.length = 8 ∧ ¬ s.Safe := by
  refine ⟨?_, ?_⟩
  · have hview : (expansionControl.replay (fun _ _ => True) (.init (some .usart))
        [.call .enable, .handle, .detect, .call (.setListenSerial .lpuart), .detect, .handle,
          .worker 0 .fail, .worker 0 .put, .worker 0 .finish, .handle, .joined, .joined, .handle,
          .handle]).map (fun s => (s.thread, s.worker, s.workerCount, s.workers 1)) =
        some (.freeing .moduleDisconnected, 1, 2,
          { expansionWorkerStart with rxBufFreed := true }) := by
      decide +kernel
    obtain ⟨s, hs, hv⟩ := Option.map_eq_some_iff.mp hview
    simp only [Prod.mk.injEq] at hv
    obtain ⟨hthread, hworker, hcount, hw⟩ := hv
    refine ⟨s, .of_replay .refl hs, hthread, hworker, hw, fun h => ?_⟩
    have := h.rxBuf 1 (by omega) (by rw [hw])
    rw [hw] at this
    exact absurd this (by decide)
  · have hview : (expansionControl.replay (fun _ _ => True) (.init (some .usart))
        [.call .enable, .handle, .detect, .call .disable, .detect, .detect, .detect, .detect,
          .detect, .detect, .handle, .call .isConnected, .worker 0 .fail, .handle,
          .call .isConnected]).map
            (fun s => (s.thread, s.worker, (s.workers 0).thread, s.queue.length)) =
        some (.stopping .disable, 0, .postingExit, 8) := by
      decide +kernel
    obtain ⟨s, hs, hv⟩ := Option.map_eq_some_iff.mp hview
    simp only [Prod.mk.injEq] at hv
    obtain ⟨hthread, hworker, hw, hqueue⟩ := hv
    refine ⟨s, .of_replay .refl hs, hthread, hworker, hw, hqueue, fun h => ?_⟩
    have hspace := h.noDeadlock (by rw [hthread]; simp)
      (by rw [Expansion.currentThread, hworker, hw]; exact .inr rfl)
    rw [Expansion.HasSpace, hqueue] at hspace
    exact absurd hspace (by decide)

end FlipperZero
