import Gonggo.WorkThreads

/-! # From the start of work to its return

The stages of the four threads against what `work` has left to do. A thread is up before the next one is
made and is told to stop before it is joined, whichever step fails and whenever SIGTERM comes.
-/

namespace Gonggo

namespace WorkStep

/-! ## What may be left to do -/

def afterServe : List WorkStep := .aliveMutexDie :: .killAll :: (threadsStop ++ cleanUp)

/-- Every list of steps that `work` may have before it. -/
def lists : List (List WorkStep) :=
  WorkStep.work.tails ++
    [.aliveMutexDie :: .isstarted :: serve, .aliveMutexDie :: (threadsStop ++ cleanUp),
      .pauseCall :: afterServe, .paused :: afterServe]

/-- `work` waits for SIGTERM, or comes to it. -/
def awaits (todo : List WorkStep) : Bool :=
  .exitTest ∈ todo || .pauseCall ∈ todo || .paused ∈ todo

theorem work_mem_lists : WorkStep.work ∈ lists := by decide

/-- The order of the steps in work.c, on every list of them that may be before `work`. -/
structure StepOrder : Prop where
  closed : ∀ todo ∈ lists, ∀ ok, follow ok todo ∈ lists
  create : ∀ todo ∈ lists, ∀ ok thread, .create thread ∈ follow ok todo →
    .create thread ∈ todo ∧ todo.head? ≠ some (.create thread)
  /-- A stop that is no longer to do was done, or its thread is not made. -/
  stopLock : ∀ todo ∈ lists, ∀ ok thread, .stopLock thread ∉ follow ok todo →
    .stopLock thread ∉ todo ∨ todo.head? = some (.stopLock thread) ∨
      .create thread ∈ todo ∧ (todo.head? = some (.create thread) → ok = false)
  join : ∀ todo ∈ lists, ∀ ok thread, .join thread ∉ follow ok todo →
    .join thread ∉ todo ∨ todo.head? = some (.join thread) ∨
      .create thread ∈ todo ∧ (todo.head? = some (.create thread) → ok = false)
  headStop : ∀ todo ∈ lists, ∀ ok thread,
    (follow ok todo).head? = some (.stop thread) ↔ todo.head? = some (.stopLock thread)
  headCreate : ∀ todo ∈ lists, ∀ thread, todo.head? = some (.create thread) →
    (follow true todo).head? = some (.waitforStarted thread)
  headWaitfor : ∀ todo ∈ lists, ∀ ok thread,
    (follow ok todo).head? = some (.waitforStarted thread) →
      ok = true ∧ todo.head? = some (.create thread)
  /-- A stop comes into reach by SIGTERM or by a step that fails. -/
  reached : ∀ todo ∈ lists, ∀ ok thread, .stop thread ∈ follow ok todo →
    awaits (follow ok todo) = false → .stop thread ∈ todo ∧ awaits todo = false ∨
      ok = true ∧ todo.head? = some .exitTest ∨
      ok = false ∧ (todo.head? = some .isstarted ∨ todo.head? = some .serverStart)
  awaited : ∀ todo ∈ lists, ∀ thread, todo.head? = some (.stop thread) →
    awaits todo = false
  toStop : ∀ todo ∈ lists, ∀ thread, .create thread ∈ todo →
    .stopLock thread ∈ todo ∧ .join thread ∈ todo
  joinLast : ∀ todo ∈ lists, ∀ thread, todo.head? = some (.join thread) →
    .stopLock thread ∉ todo
  /-- The activator is the last to be made. -/
  activatorLast : ∀ todo ∈ lists, ∀ ok thread, .create .proxyActivator ∈ follow ok todo →
    .create thread ∈ todo →
      .create thread ∈ follow ok todo ∨ todo.head? = some (.create thread) ∧ ok = true
  activatorAlone : ∀ todo ∈ lists, ∀ thread, todo.head? = some (.create .proxyActivator) →
    .create thread ∈ todo → thread = .proxyActivator
  resumed : ∀ todo ∈ lists, resume todo ∈ lists

theorem stepOrder : StepOrder where
  closed := by decide +kernel
  create := by decide +kernel
  stopLock := by decide +kernel
  join := by decide +kernel
  headStop := by decide +kernel
  headCreate := by decide +kernel
  headWaitfor := by decide +kernel
  reached := by decide +kernel
  awaited := by decide +kernel
  toStop := by decide +kernel
  joinLast := by decide +kernel
  activatorLast := by decide +kernel
  activatorAlone := by decide +kernel
  resumed := by decide +kernel

theorem mem_resume_iff {w : WorkStep} (hPaused : w ≠ .paused) (hTest : w ≠ .exitTest)
    (todo : List WorkStep) : w ∈ resume todo ↔ w ∈ todo := by
  unfold resume
  split
  · next hHead =>
    obtain ⟨rest, rfl⟩ := List.head?_eq_some_iff.mp hHead
    simp [hPaused, hTest]
  · rfl

theorem head_resume_iff {w : WorkStep} (hPaused : w ≠ .paused) (hTest : w ≠ .exitTest)
    (todo : List WorkStep) : (resume todo).head? = some w ↔ todo.head? = some w := by
  unfold resume
  split
  · next hHead => simp [hHead, hPaused.symm, hTest.symm]
  · rfl

end WorkStep

/-! ## The threads -/

namespace Work

variable {s : Work}

/-- A thread that `work` has to do with is in one of its stages. -/
structure Ordered (s : Work) : Prop where
  listed : s.todo ∈ WorkStep.lists
  loops : ∀ thread, (s.threads thread).Sound thread.shape
  absent : ∀ thread, .create thread ∈ s.todo → (s.threads thread).pc = .absent
  up : ∀ thread, (s.threads thread).pc = .absent ∨ s.isstarted thread = true ∨
    s.todo.head? = some (.waitforStarted thread)
  made : ∀ thread, s.todo.head? = some (.waitforStarted thread) → (s.threads thread).pc ≠ .absent
  told : ∀ thread, .stopLock thread ∉ s.todo →
    (s.threads thread).pc = .absent ∨ (s.threads thread).ended = true ∨
      s.todo.head? = some (.stop thread)
  stopping : ∀ thread, (s.threads thread).owner = some .stopper ↔
    s.todo.head? = some (.stop thread) ∧ (s.threads thread).pc ≠ .absent
  joined : ∀ thread, .join thread ∉ s.todo → (s.threads thread).gone = true
  exit : ∀ thread, .stop thread ∈ s.todo → WorkStep.awaits s.todo = false → s.gonggoExit = true
  untold : ∀ thread, (s.threads thread).ended = true → s.gonggoExit = true

theorem ordered_started : Ordered started where
  listed := WorkStep.work_mem_lists
  loops _ := StoppableLoop.sound_absent
  absent _ _ := rfl
  up _ := .inl rfl
  made thread := by cases thread <;> decide
  told _ _ := .inl rfl
  stopping thread := by cases thread <;> decide
  joined _ _ := rfl
  exit thread := by cases thread <;> decide
  untold _ h := by cases h

@[simp] theorem setThread_todo (thread : WorkThread) (l : StoppableLoop) :
    (s.setThread thread l).todo = s.todo := rfl

@[simp] theorem setThread_gonggoExit (thread : WorkThread) (l : StoppableLoop) :
    (s.setThread thread l).gonggoExit = s.gonggoExit := rfl

theorem setThread_threads (thread : WorkThread) (l : StoppableLoop) (other : WorkThread) :
    (s.setThread thread l).threads other = if other = thread then l else s.threads other := by
  simp [setThread, Function.update_apply]

/-- A thread that moves by itself, or that is called, keeps its stage. -/
theorem Ordered.evolve (h : s.Ordered) {thread : WorkThread} {l : StoppableLoop}
    (hSound : l.Sound thread.shape) (hEvolves : (s.threads thread).Evolves thread.shape l) :
    (s.setThread thread l).Ordered := by
  have hAll : ∀ other, (s.threads other).Evolves other.shape ((s.setThread thread l).threads other) := by
    intro other
    rw [setThread_threads]
    split
    · next hEq => rw [hEq]; exact hEvolves
    · exact .of_same rfl rfl .rfl
  constructor
  case listed => exact h.listed
  case loops =>
    intro other
    rw [setThread_threads]
    split
    · next hEq => rw [hEq]; exact hSound
    · exact h.loops other
  case absent => exact fun other hMem => (hAll other).absent.mpr (h.absent other hMem)
  case up =>
    exact fun other => (h.up other).imp (hAll other).absent.mpr (Or.imp_left (hAll other).started)
  case made =>
    intro other hHead
    rw [ne_eq, (hAll other).absent]
    exact h.made other hHead
  case told =>
    intro other hNotMem
    rw [(hAll other).absent, (hAll other).ended]
    exact h.told other hNotMem
  case stopping =>
    intro other
    rw [(hAll other).stopper, ne_eq, (hAll other).absent]
    exact h.stopping other
  case joined => exact fun other hNotMem => (hAll other).gone (h.joined other hNotMem)
  case exit => exact h.exit
  case untold =>
    intro other hEnded
    rw [(hAll other).ended] at hEnded
    exact h.untold other hEnded

@[simp] theorem fail_threads (w : WorkStep) : (s.fail w).threads = s.threads := by
  unfold fail
  split <;> rfl

/-- What a step of `work` does to a thread. -/
theorem step_threads (ok : Bool) (w : WorkStep) (thread : WorkThread) :
    (w = .create thread ∧ ok = true ∧
      (s.step ok w).threads thread = { s.threads thread with pc := .created }) ∨
    (w = .stopLock thread ∧ s.isstarted thread = true ∧
      (s.step ok w).threads thread = (s.threads thread).lockBy .stopper) ∨
    (w = .stop thread ∧ s.isstarted thread = true ∧
      (s.step ok w).threads thread = (s.threads thread).stop) ∨
    ((s.step ok w).threads thread = s.threads thread ∧ (w = .create thread → ok = false) ∧
      (w = .stopLock thread ∨ w = .stop thread → s.isstarted thread = false)) := by
  cases w with
  | create other =>
    cases ok with
    | false => simp [step, outcome]
    | true =>
      by_cases hEq : thread = other
      · subst hEq
        simp [step, outcome, act, setThread_threads]
      · simp [step, outcome, act, setThread_threads, hEq, Ne.symm hEq]
  | stopLock other =>
    by_cases hEq : thread = other
    · subst hEq
      by_cases hUp : s.isstarted thread = true <;> simp [step, outcome, act, setThread_threads, hUp]
    · by_cases hUp : s.isstarted other = true <;>
        simp [step, outcome, act, setThread_threads, hUp, hEq, Ne.symm hEq]
  | stop other =>
    by_cases hEq : thread = other
    · subst hEq
      by_cases hUp : s.isstarted thread = true <;> simp [step, outcome, act, setThread_threads, hUp]
    · by_cases hUp : s.isstarted other = true <;>
        simp [step, outcome, act, setThread_threads, hUp, hEq, Ne.symm hEq]
  | _ =>
    refine .inr (.inr (.inr ⟨?_, by simp, by simp⟩))
    unfold step
    split
    · rfl
    · rw [fail_threads]

theorem pc_ne_of_isstarted {thread : WorkThread} (h : s.isstarted thread = true) :
    (s.threads thread).pc ≠ .absent := by
  intro hPc
  simp [isstarted, StoppableLoop.started, hPc] at h

/-- A thread that is not up when its turn comes was not made. -/
theorem Ordered.absent_of_not_isstarted (h : s.Ordered) {thread : WorkThread}
    (hUp : s.isstarted thread = false) (hHead : s.todo.head? ≠ some (.waitforStarted thread)) :
    (s.threads thread).pc = .absent :=
  (h.up thread).elim id fun hOr =>
    hOr.elim (fun hTrue => by rw [hUp] at hTrue; cases hTrue) (fun hEq => absurd hEq hHead)

theorem step_gonggoExit (ok : Bool) (w : WorkStep) :
    (s.step ok w).gonggoExit = true ↔ s.gonggoExit = true ∨
      s.outcome ok w = false ∧ (w = .isstarted ∨ w = .serverStart) := by
  unfold step
  cases hOutcome : s.outcome ok w with
  | true =>
    have hAct : (s.act w).gonggoExit = s.gonggoExit := by
      cases w <;> first | rfl | (simp only [act]; split <;> rfl)
    simp [hAct]
  | false =>
    cases w <;> first | (cases hOutcome; done) | simp [fail, WorkStep.failure]

/-! ### One step of work, field by field -/

section Step

variable {w : WorkStep} {ok : Bool} {thread : WorkThread}

theorem Ordered.loops_step (h : s.Ordered) (hHead : s.todo.head? = some w) (hEnabled : s.enabled w = true) :
    ((s.step ok w).threads thread).Sound thread.shape := by
  rcases s.step_threads ok w thread with ⟨rfl, -, hEq⟩ | ⟨rfl, hUp, hEq⟩ | ⟨rfl, hUp, hEq⟩ |
    ⟨hEq, -, -⟩ <;> rw [hEq]
  · exact (h.loops thread).create (h.absent thread (List.mem_of_mem_head? hHead))
  · have hFree : (s.threads thread).owner = none := by simpa [enabled, hUp] using hEnabled
    exact (h.loops thread).lockBy hFree (by simp)
  · exact (h.loops thread).stop ((h.stopping thread).mpr ⟨hHead, pc_ne_of_isstarted hUp⟩)
  · exact h.loops thread

theorem Ordered.absent_step (h : s.Ordered) (hHead : s.todo.head? = some w)
    (hMem : .create thread ∈ WorkStep.follow (s.outcome ok w) s.todo) :
    ((s.step ok w).threads thread).pc = .absent := by
  obtain ⟨hCreate, hNot⟩ := WorkStep.stepOrder.create _ h.listed _ thread hMem
  have hAbsent := h.absent thread hCreate
  rcases s.step_threads ok w thread with ⟨rfl, -, -⟩ | ⟨rfl, hUp, -⟩ | ⟨rfl, hUp, -⟩ | ⟨hEq, -, -⟩
  · exact absurd hHead hNot
  · exact absurd hAbsent (pc_ne_of_isstarted hUp)
  · exact absurd hAbsent (pc_ne_of_isstarted hUp)
  · rwa [hEq]

theorem Ordered.up_step (h : s.Ordered) (hHead : s.todo.head? = some w) (hEnabled : s.enabled w = true) :
    ((s.step ok w).threads thread).pc = .absent ∨ (s.step ok w).isstarted thread = true ∨
      (WorkStep.follow (s.outcome ok w) s.todo).head? = some (.waitforStarted thread) := by
  rcases s.step_threads ok w thread with ⟨rfl, rfl, hEq⟩ | ⟨rfl, hUp, hEq⟩ | ⟨rfl, hUp, hEq⟩ |
    ⟨hEq, -, -⟩ <;> simp only [hEq, isstarted]
  · exact .inr (.inr (WorkStep.stepOrder.headCreate _ h.listed thread hHead))
  · exact .inr (.inl hUp)
  · exact .inr (.inl (StoppableLoop.started_stop hUp))
  · rcases h.up thread with hAbsent | hUp | hWait
    · exact .inl hAbsent
    · exact .inr (.inl hUp)
    · obtain rfl : w = .waitforStarted thread := Option.some.inj (hHead.symm.trans hWait)
      exact .inr (.inl hEnabled)

theorem Ordered.made_step (h : s.Ordered) (hHead : s.todo.head? = some w)
    (hWait : (WorkStep.follow (s.outcome ok w) s.todo).head? = some (.waitforStarted thread)) :
    ((s.step ok w).threads thread).pc ≠ .absent := by
  obtain ⟨hTrue, hIs⟩ := WorkStep.stepOrder.headWaitfor _ h.listed _ thread hWait
  obtain rfl : w = .create thread := Option.some.inj (hHead.symm.trans hIs)
  rcases s.step_threads ok (.create thread) thread with ⟨-, -, hEq⟩ | ⟨hIs, -, -⟩ | ⟨hIs, -, -⟩ |
    ⟨-, hFalse, -⟩
  · simp [hEq]
  · cases hIs
  · cases hIs
  · rw [outcome, hFalse rfl] at hTrue
    cases hTrue

theorem Ordered.told_step (h : s.Ordered) (hHead : s.todo.head? = some w)
    (hNotMem : .stopLock thread ∉ WorkStep.follow (s.outcome ok w) s.todo) :
    ((s.step ok w).threads thread).pc = .absent ∨ ((s.step ok w).threads thread).ended = true ∨
      (WorkStep.follow (s.outcome ok w) s.todo).head? = some (.stop thread) := by
  rcases s.step_threads ok w thread with ⟨rfl, rfl, hEq⟩ | ⟨rfl, hUp, hEq⟩ | ⟨rfl, hUp, hEq⟩ |
    ⟨hEq, hCreate, hStop⟩ <;> simp only [hEq]
  · rcases WorkStep.stepOrder.stopLock _ h.listed _ thread hNotMem with hNot | hIs | ⟨-, hFalse⟩
    · exact absurd (WorkStep.stepOrder.toStop _ h.listed thread (List.mem_of_mem_head? hHead)).1 hNot
    · cases hHead.symm.trans hIs
    · cases hFalse hHead
  · exact .inr (.inr ((WorkStep.stepOrder.headStop _ h.listed _ thread).mpr hHead))
  · exact .inr (.inl rfl)
  · rcases WorkStep.stepOrder.stopLock _ h.listed _ thread hNotMem with hNot | hIs | ⟨hMem, -⟩
    · rcases h.told thread hNot with hAbsent | hEnded | hIs
      · exact .inl hAbsent
      · exact .inr (.inl hEnded)
      · obtain rfl : w = .stop thread := Option.some.inj (hHead.symm.trans hIs)
        exact .inl (h.absent_of_not_isstarted (hStop (.inr rfl)) (by simp [hHead]))
    · obtain rfl : w = .stopLock thread := Option.some.inj (hHead.symm.trans hIs)
      exact .inl (h.absent_of_not_isstarted (hStop (.inl rfl)) (by simp [hHead]))
    · exact .inl (h.absent thread hMem)

theorem Ordered.stopping_step (h : s.Ordered) (hHead : s.todo.head? = some w) :
    ((s.step ok w).threads thread).owner = some .stopper ↔
      (WorkStep.follow (s.outcome ok w) s.todo).head? = some (.stop thread) ∧
        ((s.step ok w).threads thread).pc ≠ .absent := by
  have hOld := h.stopping thread
  rw [hHead] at hOld
  rw [WorkStep.stepOrder.headStop _ h.listed _ thread, hHead]
  rcases s.step_threads ok w thread with ⟨rfl, rfl, hEq⟩ | ⟨rfl, hUp, hEq⟩ | ⟨rfl, hUp, hEq⟩ |
    ⟨hEq, hCreate, hStop⟩ <;> simp only [hEq]
  · simpa using hOld
  · simp [StoppableLoop.lockBy, pc_ne_of_isstarted hUp]
  · simp [StoppableLoop.stop]
  · rw [hOld]
    have hAbsent : w = .stopLock thread ∨ w = .stop thread → (s.threads thread).pc = .absent :=
      fun hOr => h.absent_of_not_isstarted (hStop hOr) (by rcases hOr with rfl | rfl <;> simp [hHead])
    exact ⟨fun hLeft => absurd (hAbsent (.inr (Option.some.inj hLeft.1))) hLeft.2,
      fun hRight => absurd (hAbsent (.inl (Option.some.inj hRight.1))) hRight.2⟩

theorem Ordered.joined_step (h : s.Ordered) (hHead : s.todo.head? = some w) (hEnabled : s.enabled w = true)
    (hNotMem : .join thread ∉ WorkStep.follow (s.outcome ok w) s.todo) :
    ((s.step ok w).threads thread).gone = true := by
  rcases WorkStep.stepOrder.join _ h.listed _ thread hNotMem with hNot | hIs | ⟨hMem, hFalse⟩
  · have hGone := h.joined thread hNot
    rcases s.step_threads ok w thread with ⟨rfl, -, -⟩ | ⟨-, -, hEq⟩ | ⟨-, -, hEq⟩ | ⟨hEq, -, -⟩
    · exact absurd (WorkStep.stepOrder.toStop _ h.listed thread (List.mem_of_mem_head? hHead)).2 hNot
    · exact (congrArg StoppableLoop.gone hEq).trans hGone
    · exact (congrArg StoppableLoop.gone hEq).trans (StoppableLoop.gone_stop hGone)
    · exact (congrArg StoppableLoop.gone hEq).trans hGone
  · obtain rfl : w = .join thread := Option.some.inj (hHead.symm.trans hIs)
    have hSame : (s.step ok (.join thread)).threads = s.threads := rfl
    rw [hSame, StoppableLoop.gone_iff]
    cases hUp : s.isstarted thread with
    | false => exact .inl (h.absent_of_not_isstarted hUp (by simp [hHead]))
    | true => exact .inr (by simpa [enabled, hUp] using hEnabled)
  · have hAbsent := h.absent thread hMem
    rcases s.step_threads ok w thread with ⟨rfl, hOk, -⟩ | ⟨-, hUp, -⟩ | ⟨-, hUp, -⟩ | ⟨hEq, -, -⟩
    · rw [outcome, hOk] at hFalse
      cases hFalse hHead
    · exact absurd hAbsent (pc_ne_of_isstarted hUp)
    · exact absurd hAbsent (pc_ne_of_isstarted hUp)
    · rw [hEq]
      exact StoppableLoop.gone_iff.mpr (.inl hAbsent)

theorem Ordered.exit_step (h : s.Ordered) (hHead : s.todo.head? = some w)
    (hMem : .stop thread ∈ WorkStep.follow (s.outcome ok w) s.todo)
    (hAwaits : WorkStep.awaits (WorkStep.follow (s.outcome ok w) s.todo) = false) :
    (s.step ok w).gonggoExit = true := by
  refine (s.step_gonggoExit ok w).mpr ?_
  rcases WorkStep.stepOrder.reached _ h.listed _ thread hMem hAwaits with ⟨hOld, hNot⟩ | ⟨hTrue, hIs⟩ |
    ⟨hFalse, hIs⟩
  · exact .inl (h.exit thread hOld hNot)
  · obtain rfl : w = .exitTest := Option.some.inj (hHead.symm.trans hIs)
    exact .inl hTrue
  · exact .inr ⟨hFalse, hIs.imp (fun hIs => Option.some.inj (hHead.symm.trans hIs))
      (fun hIs => Option.some.inj (hHead.symm.trans hIs))⟩

theorem Ordered.untold_step (h : s.Ordered) (hHead : s.todo.head? = some w)
    (hEnded : ((s.step ok w).threads thread).ended = true) : (s.step ok w).gonggoExit = true := by
  refine (s.step_gonggoExit ok w).mpr (.inl ?_)
  rcases s.step_threads ok w thread with ⟨-, -, hEq⟩ | ⟨-, -, hEq⟩ | ⟨rfl, -, -⟩ | ⟨hEq, -, -⟩
  · exact h.untold thread (by rwa [hEq] at hEnded)
  · exact h.untold thread (by rwa [hEq] at hEnded)
  · exact h.exit thread (List.mem_of_mem_head? hHead) (WorkStep.stepOrder.awaited _ h.listed thread hHead)
  · exact h.untold thread (by rwa [hEq] at hEnded)

/-- `work` takes its next step. -/
theorem Ordered.work (h : s.Ordered) (hHead : s.todo.head? = some w) (hEnabled : s.enabled w = true)
    (ok : Bool) :
    ({ s.step ok w with todo := WorkStep.follow (s.outcome ok w) s.todo } : Work).Ordered where
  listed := WorkStep.stepOrder.closed _ h.listed _
  loops _ := h.loops_step hHead hEnabled
  absent _ hMem := h.absent_step hHead hMem
  up _ := h.up_step hHead hEnabled
  made _ hWait := h.made_step hHead hWait
  told _ hNotMem := h.told_step hHead hNotMem
  stopping _ := h.stopping_step hHead
  joined _ hNotMem := h.joined_step hHead hEnabled hNotMem
  exit _ hMem hAwaits := h.exit_step hHead hMem hAwaits
  untold _ hEnded := h.untold_step hHead hEnded

end Step

/-- SIGTERM finds `work` in its wait, or only sets the flag. -/
theorem Ordered.sigterm (h : s.Ordered) :
    ({ s with gonggoExit := true, todo := WorkStep.resume s.todo } : Work).Ordered where
  listed := WorkStep.stepOrder.resumed _ h.listed
  loops := h.loops
  absent thread hMem := h.absent thread ((WorkStep.mem_resume_iff (by simp) (by simp) _).mp hMem)
  up thread := by
    rw [WorkStep.head_resume_iff (by simp) (by simp)]
    exact h.up thread
  made thread := by
    rw [WorkStep.head_resume_iff (by simp) (by simp)]
    exact h.made thread
  told thread := by
    rw [WorkStep.mem_resume_iff (by simp) (by simp), WorkStep.head_resume_iff (by simp) (by simp)]
    exact h.told thread
  stopping thread := by
    rw [WorkStep.head_resume_iff (by simp) (by simp)]
    exact h.stopping thread
  joined thread := by
    rw [WorkStep.mem_resume_iff (by simp) (by simp)]
    exact h.joined thread
  exit _ _ _ := rfl
  untold _ _ := rfl

end Work

end Gonggo
