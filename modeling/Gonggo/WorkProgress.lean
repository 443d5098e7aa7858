import Mathlib.Algebra.BigOperators.Group.Finset.Basic
import Gonggo.WorkReturn

/-! # The end of work

What `work` and its threads do by themselves is bounded by the wake-ups, the calls and the signals that
come from outside, and they are stuck only where they wait for one of these: `work` in `pause`, a thread
behind a lock that a caller has, or either in a call or a piece of work that does not go on. A SIGTERM
between the test of `gonggo_exit` and `pause` is not heard.
-/

namespace Gonggo

namespace WorkStep

/-- What a step may add to the steps of the threads. -/
def raises : WorkStep → Nat
  | .create _ => 13
  | .stop _ => 9
  | _ => 0

def weight : WorkStep → Nat
  | .exitTest => 3
  | .pauseCall => 2
  | .paused => 1
  | _ => 14

def load : List WorkStep → Nat
  | [] => 0
  | w :: rest => w.weight + load rest

theorem load_follow : ∀ todo ∈ lists, ∀ ok, todo ≠ [] → todo.head? ≠ some .paused →
    load (follow ok todo) + (todo.head?.elim 0 raises) < load todo := by decide +kernel

theorem load_resume : ∀ todo ∈ lists, load (resume todo) ≤ load todo + 9 := by decide +kernel

theorem head_follow_pause : ∀ todo ∈ lists, ∀ ok,
    ((follow ok todo).head? = some .pauseCall → ok = false ∧ todo.head? = some .exitTest) ∧
    ((follow ok todo).head? = some .paused → todo.head? = some .pauseCall) := by decide +kernel

end WorkStep

namespace WorkEvent

/-- A step of `work` or of one of its threads. -/
def isOwn : WorkEvent → Bool
  | .work _ | .run _ _ => true
  | _ => false

/-- SIGTERM does not come between the test of `gonggo_exit` and `pause`. -/
def IsHeard (s : Work) : WorkEvent → Prop
  | .sigterm => s.todo.head? ≠ some .pauseCall
  | _ => True

instance (s : Work) : (e : WorkEvent) → Decidable (e.IsHeard s)
  | .sigterm => inferInstanceAs (Decidable (s.todo.head? ≠ some .pauseCall))
  | .work _ | .run _ _ | .wake _ | .lock _ | .unlock _ _ | .aliveLock | .aliveUnlock | .hold _ |
    .release _ => isTrue trivial

end WorkEvent

namespace Work

variable {s : Work}

/-! ## The bound -/

def ranks (s : Work) : Nat := ∑ thread, (s.threads thread).rank thread.shape

def potential (s : Work) : Nat := WorkStep.load s.todo + s.ranks

theorem ranks_setThread (thread : WorkThread) (l : StoppableLoop) :
    (s.setThread thread l).ranks + (s.threads thread).rank thread.shape =
      s.ranks + l.rank thread.shape := by
  unfold ranks
  rw [← Finset.add_sum_erase _ _ (Finset.mem_univ thread),
    ← Finset.add_sum_erase (a := thread) _ (fun other => (s.threads other).rank other.shape)
      (Finset.mem_univ thread)]
  have hSame : ∀ other ∈ Finset.univ.erase thread,
      ((s.setThread thread l).threads other).rank other.shape = (s.threads other).rank other.shape := by
    intro other hMem
    rw [setThread_threads, if_neg (Finset.ne_of_mem_erase hMem)]
  rw [Finset.sum_congr rfl hSame, setThread_threads, if_pos rfl]
  omega

theorem pauses_le (thread : WorkThread) : thread.shape.pauses ≤ 2 := by cases thread <;> decide

theorem ranks_wake_le (thread : WorkThread) :
    (s.threads thread).wake.rank thread.shape ≤ (s.threads thread).rank thread.shape + 9 := by
  have hWake := @StoppableLoop.rank_wake_le thread.shape (s.threads thread)
  have hPauses := pauses_le thread
  omega

theorem ranks_step_le (ok : Bool) (w : WorkStep) : (s.step ok w).ranks ≤ s.ranks + w.raises := by
  unfold step
  split
  · cases w with
    | create thread =>
      have hRanks := s.ranks_setThread thread
        ⟨.created, (s.threads thread).ended, (s.threads thread).owner⟩
      have hPauses := pauses_le thread
      simp only [StoppableLoop.rank] at hRanks
      simp only [act, WorkStep.raises]
      omega
    | stopLock thread =>
      simp only [act]
      split
      · have hRanks := s.ranks_setThread thread ((s.threads thread).lockBy .stopper)
        have hSame : ((s.threads thread).lockBy .stopper).rank thread.shape =
            (s.threads thread).rank thread.shape := rfl
        omega
      · exact Nat.le_add_right _ _
    | stop thread =>
      simp only [act]
      split
      · have hRanks := s.ranks_setThread thread (s.threads thread).stop
        have hSame : (s.threads thread).stop.rank thread.shape =
            (s.threads thread).wake.rank thread.shape := rfl
        have hWake := s.ranks_wake_le thread
        simp only [WorkStep.raises]
        omega
      · exact Nat.le_add_right _ _
    | _ => exact Nat.le_add_right _ _
  · have hSame : (s.fail w).ranks = s.ranks := by simp [ranks]
    rw [hSame]
    exact Nat.le_add_right _ _

theorem potential_own (h : s.Managed) {e : WorkEvent} (hGuard : e.guard s) (hOwn : e.isOwn = true) :
    (e.effect s).potential < s.potential := by
  cases e with
  | work ok =>
    obtain ⟨w, hHead, hEnabled⟩ := hGuard
    obtain ⟨rest, hTodo⟩ := List.head?_eq_some_iff.mp hHead
    have hLoad := WorkStep.load_follow _ h.ordered.listed (s.outcome ok w) (by simp [hTodo])
      (by rw [hHead]; rintro ⟨rfl⟩; cases hEnabled)
    have hRanks := s.ranks_step_le ok w
    have hEffect : ((WorkEvent.work ok).effect s).potential =
        WorkStep.load (WorkStep.follow (s.outcome ok w) s.todo) + (s.step ok w).ranks := by
      simp only [WorkEvent.effect, hTodo, potential, WorkStep.follow, ranks]
    rw [hHead] at hLoad
    simp only [Option.elim_some] at hLoad
    rw [hEffect, potential]
    omega
  | run thread pause =>
    have hRanks := s.ranks_setThread thread ((s.threads thread).run thread.shape pause)
    have hRun := @StoppableLoop.rank_run thread.shape (s.threads thread) hGuard.1 pause
    simp only [WorkEvent.effect, potential, setThread_todo]
    omega
  | _ => cases hOwn

theorem potential_other (h : s.Managed) {e : WorkEvent} (hOwn : e.isOwn = false) :
    (e.effect s).potential ≤ s.potential + 9 := by
  have hSet : ∀ thread l, StoppableLoop.rank (WorkThread.shape thread) l ≤
      (s.threads thread).rank thread.shape + 9 → (s.setThread thread l).potential ≤ s.potential + 9 := by
    intro thread l hRank
    have hRanks := s.ranks_setThread thread l
    simp only [potential, setThread_todo]
    omega
  cases e with
  | work | run => cases hOwn
  | wake thread => exact hSet thread _ (s.ranks_wake_le thread)
  | lock thread => exact hSet thread _ (Nat.le_add_right _ _)
  | unlock thread signals =>
    refine hSet thread _ ?_
    cases signals with
    | true => exact s.ranks_wake_le thread
    | false => exact Nat.le_add_right _ _
  | aliveLock | aliveUnlock | hold | release => exact Nat.le_add_right _ _
  | sigterm =>
    have hLoad := WorkStep.load_resume _ h.ordered.listed
    have hRanks : ((WorkEvent.sigterm).effect s).ranks = s.ranks := rfl
    simp only [potential, hRanks]
    simp only [WorkEvent.effect]
    omega

/-! ## Who waits for whom -/

/-- On its way into `pause`, and in it, `work` has not been told to end. -/
def Attentive (s : Work) : Prop :=
  s.todo.head? = some .pauseCall ∨ s.todo.head? = some .paused → s.gonggoExit = false

theorem Attentive.effect (h : s.Attentive) (hManaged : s.Managed) {e : WorkEvent} (hGuard : e.guard s)
    (hHeard : e.IsHeard s) : (e.effect s).Attentive := by
  cases e with
  | work ok =>
    obtain ⟨w, hHead, hEnabled⟩ := hGuard
    obtain ⟨rest, hTodo⟩ := List.head?_eq_some_iff.mp hHead
    obtain ⟨hCall, hPaused⟩ := WorkStep.head_follow_pause _ hManaged.ordered.listed (s.outcome ok w)
    rw [hTodo, WorkStep.follow] at hCall hPaused
    simp only [WorkEvent.effect, hTodo, Attentive]
    rw [Bool.eq_false_iff, ne_eq, s.step_gonggoExit]
    rintro (hNext | hNext) hExit
    · obtain ⟨hFalse, hIs⟩ := hCall hNext
      obtain rfl : w = .exitTest := Option.some.inj hIs
      rcases hExit with hExit | ⟨-, hIs | hIs⟩
      · exact absurd (hFalse.symm.trans hExit) (by simp)
      · cases hIs
      · cases hIs
    · have hIs := hPaused hNext
      obtain rfl : w = .pauseCall := Option.some.inj hIs
      rcases hExit with hExit | ⟨-, hIs | hIs⟩
      · exact absurd ((h (.inl hHead)).symm.trans hExit) (by simp)
      · cases hIs
      · cases hIs
  | sigterm =>
    have hNot : s.todo.head? ≠ some .pauseCall := hHeard
    simp only [WorkEvent.effect, Attentive]
    rintro (hHead | hHead)
    · rw [WorkStep.head_resume_iff (by simp) (by simp)] at hHead
      exact absurd hHead hNot
    · unfold WorkStep.resume at hHead
      split at hHead
      · cases hHead
      · next hPaused => exact absurd hHead hPaused
  | run | wake | lock | unlock | aliveLock | aliveUnlock | hold | release => exact h

/-- Something beyond the loops is waited for: a caller has the lock of a thread, a proxy the alive mutex,
or `work` or a thread is held up in a call. -/
inductive WaitsOutside (s : Work) : Prop
  | caller (thread : WorkThread) (h : (s.threads thread).owner = some .caller)
  | proxy (h : s.aliveOwner = some .proxy)
  | held (party : WorkParty) (h : s.isHeldUp party = true)

/-- A thread that neither waits nor is gone runs, unless a caller has its lock or it is held up. -/
theorem Managed.runs (h : s.Managed) {thread : WorkThread} (hStop : s.todo.head? ≠ some (.stop thread))
    (hPc : (s.threads thread).pc ≠ .waiting) (hGone : (s.threads thread).gone = false) :
    (∃ e : WorkEvent, e.isOwn = true ∧ e.guard s) ∨ s.WaitsOutside := by
  rcases (h.ordered.loops thread).enabled_or_locked hPc hGone with hRun | hStopper | hCaller
  · cases hHeld : s.isHeldUp (.thread thread) with
    | false => exact .inl ⟨.run thread false, rfl, hRun, hHeld⟩
    | true => exact .inr (.held (.thread thread) hHeld)
  · exact absurd ((h.ordered.stopping thread).mp hStopper).1 hStop
  · exact .inr (.caller thread hCaller)

/-- A step of its own is possible, or `work` is over or waits for something from outside. -/
theorem Managed.progress (h : s.Managed) :
    s.todo = [] ∨ s.todo.head? = some .paused ∨ (∃ e : WorkEvent, e.isOwn = true ∧ e.guard s) ∨
      s.WaitsOutside := by
  cases hTodo : s.todo with
  | nil => exact .inl rfl
  | cons w rest =>
    have hHead : s.todo.head? = some w := by rw [hTodo]; rfl
    rw [← hTodo, hHead]
    refine .inr ?_
    by_cases hEnabled : s.enabled w = true
    · exact .inr (.inl ⟨WorkEvent.work true, rfl, w, hHead, hEnabled⟩)
    cases w with
    | waitforStarted thread =>
      refine .inr (h.runs (show s.todo.head? ≠ some (.stop thread) by simp [hHead]) ?_ ?_)
      · exact fun hPc => hEnabled (by simp [enabled, isstarted, StoppableLoop.started, hPc])
      · rw [Bool.eq_false_iff, ne_eq, StoppableLoop.gone_iff]
        rintro (hPc | hPc)
        · exact h.ordered.made thread hHead hPc
        · exact hEnabled (by simp [enabled, isstarted, StoppableLoop.started, hPc])
    | aliveMutexLock =>
      refine .inr (.inr (.proxy ?_))
      have hFree := h.watched.free (List.mem_of_mem_head? hHead)
      cases hOwner : s.aliveOwner with
      | none => exact absurd (by simp [enabled, hOwner]) hEnabled
      | some owner =>
        cases owner with
        | work => exact absurd hOwner hFree
        | proxy => rfl
    | stopLock thread =>
      obtain ⟨hUp, hOwner⟩ : s.isstarted thread = true ∧ (s.threads thread).owner ≠ none := by
        simpa [enabled] using hEnabled
      obtain ⟨owner, hSome⟩ := Option.ne_none_iff_exists'.mp hOwner
      cases owner with
      | thread =>
        -- the thread has its lock, and goes on to where it gives it back
        have hHolds := (h.ordered.loops thread).owner.mp hSome
        refine .inr (h.runs (show s.todo.head? ≠ some (.stop thread) by simp [hHead]) ?_ ?_)
        · exact fun hPc => by simp [StoppableLoop.holds, hPc] at hHolds
        · rw [Bool.eq_false_iff, ne_eq, StoppableLoop.gone_iff]
          rintro (hPc | hPc) <;> simp [StoppableLoop.holds, hPc] at hHolds
      | stopper => cases hHead.symm.trans ((h.ordered.stopping thread).mp hSome).1
      | caller => exact .inr (.inr (.caller thread hSome))
    | join thread =>
      obtain ⟨hUp, hPc⟩ : s.isstarted thread = true ∧ (s.threads thread).pc ≠ .finished := by
        simpa [enabled] using hEnabled
      have hEnded : (s.threads thread).ended = true :=
        ((h.ordered.told thread (WorkStep.stepOrder.joinLast _ h.ordered.listed thread
          hHead)).resolve_left (pc_ne_of_isstarted hUp)).resolve_right (by rw [hHead]; simp)
      refine .inr (h.runs (by simp [hHead]) ((h.ordered.loops thread).notLost hEnded) ?_)
      rw [Bool.eq_false_iff, ne_eq, StoppableLoop.gone_iff]
      exact fun hOr => hOr.elim (pc_ne_of_isstarted hUp) hPc
    | dbEnsure | killAll | serverStart | serverStop =>
      have hHeld : s.held .work = true := by simpa [enabled, WorkStep.callsOut] using hEnabled
      exact .inr (.inr (.held .work (by simp [isHeldUp, hHead, WorkStep.callsOut, hHeld])))
    | paused => exact .inl rfl
    | _ => exact absurd rfl hEnabled

/-- The steps of `work` and its threads are bounded by what comes from outside. If SIGTERM is heard, they
stop only at the return, in `pause` without a SIGTERM, or where something from outside is waited for. -/
theorem returns_of_admits {events : List WorkEvent}
    (h : workSystem.Admits (fun s e => e.IsHeard s) .started events) :
    events.countP WorkEvent.isOwn ≤ 479 + 9 * events.countP (fun e => !e.isOwn) ∧
    ((∀ e : WorkEvent, e.isOwn = true → ¬ e.guard (workSystem.run .started events)) →
      (workSystem.run .started events).todo = [] ∨
      (workSystem.run .started events).todo.head? = some .paused ∧
        (workSystem.run .started events).gonggoExit = false ∨
      (workSystem.run .started events).WaitsOutside) := by
  constructor
  · have hCount := TransitionSystem.countP_own_le potential WorkEvent.isOwn 9 Managed
      (fun _ _ hManaged hGuard => hManaged.effect hGuard)
      (fun _ _ hManaged hGuard hOwn => potential_own hManaged hGuard hOwn)
      (fun _ _ hManaged _ hOwn => potential_other hManaged hOwn) managed_started h
    have hStart : potential started = 479 := by decide +kernel
    omega
  · intro hStuck
    have hReach := TransitionSystem.ReachableWhen.run (.init rfl) events h
    have hManaged := managed_of_reachableWhen hReach
    have hAttentive : (workSystem.run .started events).Attentive :=
      hReach.invariant_with (fun _ hReach => managed_of_reachableWhen hReach) Attentive
        (by rintro _ rfl; exact fun _ => rfl)
        fun _ _ hManaged hAttentive hGuard hHeard => hAttentive.effect hManaged hGuard hHeard
    rcases hManaged.progress with hDone | hPaused | ⟨e, hOwn, hGuard⟩ | hWaits
    · exact .inl hDone
    · exact .inr (.inl ⟨hPaused, hAttentive (.inr hPaused)⟩)
    · exact absurd hGuard (hStuck e hOwn)
    · exact .inr (.inr hWaits)

/-- `proxy_thread_kill_all` does not come to an end, and every thread is at its wait. -/
def sampleHeldRun : List WorkEvent :=
  List.replicate 6 (.work true) ++
    ([.respondDrain, .clientTimeout, .proxyTerminator].flatMap fun thread =>
      [.work true, .run thread false, .work true]) ++
    [.work true, .work true, .run .proxyActivator false, .run .proxyActivator false, .work true] ++
    [.run .respondDrain false, .run .respondDrain false, .run .respondDrain false,
      .run .clientTimeout false, .run .clientTimeout false, .run .clientTimeout false,
      .run .proxyTerminator false, .run .proxyTerminator false, .run .proxyActivator false] ++
    [.work true, .work true, .sigterm, .work true, .work true, .hold .work]

theorem returns_of_admits_sampleHeldRun :
    sampleHeldRun.countP WorkEvent.isOwn ≤ 479 + 9 * sampleHeldRun.countP (fun e => !e.isOwn) ∧
      (workSystem.run .started sampleHeldRun).WaitsOutside := by
  have hAdmits : workSystem.Admits (fun s e => e.IsHeard s) .started sampleHeldRun := by decide +kernel
  have hReturns := returns_of_admits hAdmits
  have hStuck : ∀ e : WorkEvent, e.isOwn = true → ¬ e.guard (workSystem.run .started sampleHeldRun) := by
    intro e hOwn
    cases e with
    | work ok => decide +revert +kernel
    | run thread pause => cases thread <;> decide +revert +kernel
    | _ => cases hOwn
  exact ⟨hReturns.1, ((hReturns.2 hStuck).resolve_left (by decide +kernel)).resolve_left (by decide +kernel)⟩

/-- A SIGTERM on the way to `pause` is not heard: with every thread at its wait, nothing happens any
more, although `gonggo_exit` is set. -/
theorem stuck_of_unheard {rest : List WorkStep} (hTodo : s.todo = .pauseCall :: rest)
    (hWaiting : ∀ thread, (s.threads thread).pc = .waiting) {t : Work}
    (hRun : t = workSystem.run s [.sigterm, .work true]) :
    t.gonggoExit = true ∧ t.todo.head? = some .paused ∧
      ∀ e : WorkEvent, e.isOwn = true → ¬ e.guard t := by
  have hState : t = { s with gonggoExit := true, todo := .paused :: rest } := by
    simp [hRun, TransitionSystem.run, workSystem, WorkEvent.effect, WorkStep.resume, hTodo, step,
      outcome, act, WorkStep.next]
  subst hState
  refine ⟨rfl, rfl, ?_⟩
  intro e hOwn
  cases e with
  | work ok =>
    rintro ⟨w, ⟨rfl⟩, hEnabled⟩
    cases hEnabled
  | run thread pause =>
    rintro ⟨hEnabled, -⟩
    simp [StoppableLoop.enabled, hWaiting thread] at hEnabled
  | _ => cases hOwn

end Work

end Gonggo
