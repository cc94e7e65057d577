import FlipperZero.Furi.EventLoop

/-!
# No lost wake-up

A wake-up pops one item of the waiting list and clears the notification flag that stood for all
of them. So the loop can come to wait with items in the list and nothing to wake it, unless
every wake-up finds at most one item, or the flag set again (`DispatchSafe`).
-/

namespace FlipperZero

namespace FuriEventLoop

open Foundation

variable {Q : Type} {s s' : FuriEventLoop Q}

/-- When the loop waits, an item in the waiting list is announced by the `Event` flag. -/
def Announced (s : FuriEventLoop Q) : Prop :=
  s.thread = .waiting → s.waitingList ≠ [] → s.flags.event = true

/-- The condition on a wake-up that is about to be handled: the items it leaves behind are
announced again already. A stop leaves all of them behind. -/
def DispatchSafe (s : FuriEventLoop Q) : FuriEventLoopStep Q → Prop
  | .dispatch =>
    match s.thread with
    | .woken flags =>
      (flags.stop = true → s.waitingList = [] ∨ s.flags.event = true) ∧
        (flags.stop = false → flags.event = true →
          s.waitingList.length ≤ 1 ∨ s.flags.event = true)
    | _ => True
  | _ => True

instance (s : FuriEventLoop Q) (e : FuriEventLoopStep Q) : Decidable (s.DispatchSafe e) := by
  unfold DispatchSafe
  split
  · split <;> infer_instance
  · infer_instance

/-- The loop thread is about to look at the waiting list, or to set the flag. -/
def FuriEventLoopThread.WillAnnounce : FuriEventLoopThread Q → Prop
  | .woken flags  => flags.event = true
  | .signalling _ => True
  | _             => False

def Inv (s : FuriEventLoop Q) : Prop :=
  s.waitingList ≠ [] → s.flags.event = true ∨ FuriEventLoopThread.WillAnnounce s.thread

lemma Inv.announced (h : Inv s) : s.Announced := by
  intro hwait hne
  rcases h hne with hevent | hwill
  · exact hevent
  · rw [hwait] at hwill
    exact hwill.elim

lemma Inv.alloc (capacity : Q → Nat) : Inv (alloc capacity) := fun hne => absurd rfl hne

/-! ### Notifications -/

@[simp] lemma notifyIndexed_waitingList (s : FuriEventLoop Q) (f : FuriEventLoopFlags) :
    (s.notifyIndexed f).waitingList = s.waitingList := rfl

@[simp] lemma notifyIndexed_thread (s : FuriEventLoop Q) (f : FuriEventLoopFlags) :
    (s.notifyIndexed f).thread = s.thread := rfl

@[simp] lemma notifyIndexed_event (s : FuriEventLoop Q) (f : FuriEventLoopFlags) :
    (s.notifyIndexed f).flags.event = (s.flags.event || f.event) := rfl

lemma Inv.notifyIndexed (h : Inv s) (f : FuriEventLoopFlags) : Inv (s.notifyIndexed f) := by
  intro hne
  rcases h hne with hevent | hwill
  · exact .inl (by simp [hevent])
  · exact .inr hwill

/-! ### The loop thread -/

/-- Handling a wake-up leaves nothing behind that is not announced. -/
lemma Inv.dispatch (h : Inv s) {flags : FuriEventLoopFlags} (hthread : s.thread = .woken flags)
    (hsafe : s.DispatchSafe .dispatch) (hstep : s.dispatch flags = some s') : Inv s' := by
  simp only [DispatchSafe, hthread] at hsafe
  obtain ⟨hstop, hevent⟩ := hsafe
  have hquiet : flags.event = false → s.waitingList ≠ [] → s.flags.event = true := by
    intro hf hne
    rcases h hne with he | hwill
    · exact he
    · rw [hthread] at hwill
      exact absurd (hf.symm.trans hwill) Bool.false_ne_true
  unfold FuriEventLoop.dispatch at hstep
  split_ifs at hstep with hs he ht hp
  · obtain rfl := Option.some.inj hstep
    intro hne
    exact .inl ((hstop hs).resolve_left hne)
  · cases hlist : s.waitingList with
    | nil =>
      rw [hlist] at hstep
      obtain rfl := Option.some.inj hstep
      intro hne
      exact absurd rfl hne
    | cons q rest =>
      rw [hlist] at hstep
      obtain rfl := Option.some.inj hstep
      intro hne
      have hrest : 0 < rest.length := List.length_pos_iff.mpr hne
      rcases hevent (by simpa using hs) he with hone | hflag
      · rw [hlist, List.length_cons] at hone
        omega
      · exact .inl hflag
  · obtain rfl := Option.some.inj hstep
    intro hne
    exact .inl (hquiet (by simpa using he) hne)
  · obtain rfl := Option.some.inj hstep
    intro hne
    exact .inl (hquiet (by simpa using he) hne)

lemma Inv.goOn (h : Inv s) (hstep : s.goOn = some s') : Inv s' := by
  unfold FuriEventLoop.goOn at hstep
  cases hthread : s.thread with
  | signalling flags =>
    rw [hthread] at hstep
    obtain rfl := Option.some.inj hstep
    exact fun _ => .inl (Bool.or_true _)
  | restoring flags =>
    rw [hthread] at hstep
    obtain rfl := Option.some.inj hstep
    intro hne
    have hne' : s.waitingList ≠ [] := by split_ifs at hne <;> exact hne
    rcases h hne' with hevent | hwill
    · refine .inl ?_
      split_ifs
      · simp [hevent]
      · exact hevent
    · rw [hthread] at hwill
      exact hwill.elim
  | pendingCallbacks =>
    rw [hthread] at hstep
    obtain rfl := Option.some.inj hstep
    intro hne
    rcases h hne with hevent | hwill
    · exact .inl hevent
    · rw [hthread] at hwill
      exact hwill.elim
  | _ =>
    rw [hthread] at hstep
    cases hstep

/-- A step of the thread that touches neither the list nor the flags keeps the invariant, when
the thread was not about to announce. -/
lemma Inv.moves (h : Inv s) (hthread : ¬ FuriEventLoopThread.WillAnnounce s.thread)
    (hlist : s'.waitingList = s.waitingList) (hflags : s'.flags = s.flags) : Inv s' := by
  intro hne
  rw [hlist] at hne
  rw [hflags]
  exact .inl ((h hne).resolve_right hthread)

/-! ### Runs -/

variable [DecidableEq Q]

lemma Inv.itemNotify (s : FuriEventLoop Q) (q : Q) : Inv (s.itemNotify q) :=
  fun _ => .inl (Bool.or_true _)

lemma Inv.linkNotify (h : Inv s) (q : Q) (event : FuriEventLoopEvent) :
    Inv (s.linkNotify q event) := by
  unfold FuriEventLoop.linkNotify
  split_ifs
  · exact itemNotify s q
  · exact h

lemma Inv.step (h : Inv s) {e : FuriEventLoopStep Q} (hsafe : s.DispatchSafe e)
    (hstep : (furiEventLoop Q).step s e = some s') : Inv s' := by
  simp only [furiEventLoop] at hstep
  cases e with
  | subscribe q event =>
    simp only [FuriEventLoop.step] at hstep
    split_ifs at hstep with hstopped
    obtain rfl := Option.some.inj hstep
    simp only [messageQueueSubscribe]
    split_ifs
    · exact itemNotify _ q
    · exact h
  | put q =>
    simp only [FuriEventLoop.step] at hstep
    split_ifs at hstep
    obtain rfl := Option.some.inj hstep
    exact h
  | get q =>
    simp only [FuriEventLoop.step] at hstep
    split_ifs at hstep
    obtain rfl := Option.some.inj hstep
    exact h
  | reset q =>
    obtain rfl := Option.some.inj hstep
    exact h
  | notify i =>
    simp only [FuriEventLoop.step] at hstep
    cases hcall : s.calls[i]? with
    | none => rw [hcall] at hstep; cases hstep
    | some c =>
      rw [hcall] at hstep
      obtain rfl := Option.some.inj hstep
      have hcalls : Inv { s with calls := s.calls.eraseIdx i } := h
      exact hcalls.linkNotify c.1 c.2
  | stop | timer | pendCallback =>
    obtain rfl := Option.some.inj hstep
    exact h.notifyIndexed _
  | run =>
    simp only [FuriEventLoop.step] at hstep
    split_ifs at hstep with hstopped
    obtain rfl := Option.some.inj hstep
    exact h.moves (by rw [hstopped]; exact not_false) rfl rfl
  | wake =>
    simp only [FuriEventLoop.step] at hstep
    split_ifs at hstep with hwake
    obtain rfl := Option.some.inj hstep
    intro hne
    exact .inr (h.announced hwake.1 hne)
  | dispatch =>
    simp only [FuriEventLoop.step] at hstep
    cases hthread : s.thread with
    | woken flags =>
      rw [hthread] at hstep
      exact h.dispatch hthread hsafe hstep
    | _ => rw [hthread] at hstep; cases hstep
  | poll =>
    simp only [FuriEventLoop.step] at hstep
    cases hthread : s.thread with
    | polling flags q =>
      rw [hthread] at hstep
      obtain rfl := Option.some.inj hstep
      have hquiet : ¬ FuriEventLoopThread.WillAnnounce s.thread := by
        rw [hthread]; exact not_false
      refine h.moves hquiet ?_ ?_
      · simp only [FuriEventLoop.poll]
        cases s.subscribed q with
        | none => rfl
        | some event => dsimp only; split_ifs <;> rfl
      · simp only [FuriEventLoop.poll]
        cases s.subscribed q with
        | none => rfl
        | some event => dsimp only; split_ifs <;> rfl
    | _ => rw [hthread] at hstep; cases hstep
  | callbackReturns result =>
    simp only [FuriEventLoop.step] at hstep
    cases hthread : s.thread with
    | calling flags q =>
      rw [hthread] at hstep
      obtain rfl := Option.some.inj hstep
      exact h.moves (by rw [hthread]; exact not_false) rfl rfl
    | _ => rw [hthread] at hstep; cases hstep
  | notifyAgain =>
    simp only [FuriEventLoop.step] at hstep
    cases hthread : s.thread with
    | again flags q =>
      rw [hthread] at hstep
      obtain rfl := Option.some.inj hstep
      exact fun _ => .inr trivial
    | _ => rw [hthread] at hstep; cases hstep
  | goOn => exact h.goOn hstep

end FuriEventLoop

open Foundation

/-- In every run whose wake-ups are safe, from a new event loop with any queues, the loop never
waits for a notification with an item in its waiting list and the `Event` flag clear. -/
theorem furiEventLoop_announced {Q : Type} [DecidableEq Q] (capacity : Q → Nat)
    (s : FuriEventLoop Q)
    (hrun : (furiEventLoop Q).Reaches FuriEventLoop.DispatchSafe (.alloc capacity) s) :
    s.Announced :=
  (hrun.invariant (FuriEventLoop.Inv.alloc capacity)
    fun _ _ _ h hsafe hstep => h.step hsafe hstep).announced

/-- A queue receives two items in turn. The callback takes the first one and asks to be called
again when there is more. -/
theorem furiEventLoop_announced_two :
    ∃ s : FuriEventLoop Bool,
      (furiEventLoop Bool).Reaches FuriEventLoop.DispatchSafe (.alloc fun _ => 1) s ∧
        s.thread = .waiting ∧ s.waitingList = [true] ∧ s.Announced := by
  have hview : ((furiEventLoop Bool).replay FuriEventLoop.DispatchSafe (.alloc fun _ => 1)
      [.subscribe true .in, .subscribe false .in, .run, .put true, .notify 0, .wake, .dispatch,
        .poll, .get true, .callbackReturns true, .put true, .notify 1, .poll,
        .callbackReturns false, .notifyAgain, .goOn, .goOn]).map
          (fun s => (s.thread, s.waitingList)) = some (.waiting, [true]) := by
    decide +kernel
  obtain ⟨s, hs, hv⟩ := Option.map_eq_some_iff.mp hview
  have hrun := System.Reaches.of_replay .refl hs
  exact ⟨s, hrun, congrArg Prod.fst hv, congrArg Prod.snd hv,
    furiEventLoop_announced (fun _ => 1) s hrun⟩

/-- Two queues receive an item each before the loop wakes up. The wake-up handles the first, and
the loop waits with the second in its list, a full queue and no notification. -/
theorem furiEventLoop_lost_wakeup :
    ∃ s : FuriEventLoop Bool,
      (furiEventLoop Bool).Reaches (fun _ _ => True) (.alloc fun _ => 1) s ∧
        s.thread = .waiting ∧ s.waitingList = [false] ∧ s.count false = 1 ∧
        (furiEventLoop Bool).step s .wake = none ∧ ¬ s.Announced := by
  have hview : ((furiEventLoop Bool).replay (fun _ _ => True) (.alloc fun _ => 1)
      [.subscribe true .in, .subscribe false .in, .run, .put true, .notify 0, .put false,
        .notify 0, .wake, .dispatch, .poll, .get true, .notify 0, .callbackReturns true, .poll,
        .goOn]).map (fun s => (s.thread, s.waitingList, s.count false, s.flags)) =
          some (.waiting, [false], 1, .none) := by
    decide +kernel
  obtain ⟨s, hs, hv⟩ := Option.map_eq_some_iff.mp hview
  simp only [Prod.mk.injEq] at hv
  obtain ⟨hthread, hlist, hcount, hflags⟩ := hv
  refine ⟨s, .of_replay .refl hs, hthread, hlist, hcount, ?_, fun h => ?_⟩
  · refine if_neg fun hwake => ?_
    rw [hflags] at hwake
    exact Bool.false_ne_true hwake.2
  · have hevent := h hthread (by rw [hlist]; exact List.cons_ne_nil _ _)
    rw [hflags] at hevent
    exact Bool.false_ne_true hevent

end FlipperZero
