import Gonggo.WorkLifecycle

/-! # What work makes and destroys

The tables, the contexts of the threads and the server are made once and destroyed once, and no thread
runs without the tables and its context. The alive mutex is held from the start of the activator to
`alive_mutex_die`, so that a proxy of this run takes it only when gonggo is no longer alive.
-/

namespace Gonggo

namespace WorkStep

/-- One step makes a resource, one destroys it, and the second follows the first. -/
structure Brackets (make destroy : WorkStep) : Prop where
  ne : make ≠ destroy
  makeOnce : ∀ todo ∈ lists, ∀ ok, make ∈ follow ok todo → make ∈ todo ∧ todo.head? ≠ some make
  destroyOnce : ∀ todo ∈ lists, ∀ ok, destroy ∈ follow ok todo →
    destroy ∈ todo ∧ todo.head? ≠ some destroy
  follows : ∀ todo ∈ lists, todo.head? = some make → destroy ∈ follow true todo
  kept : ∀ todo ∈ lists, ∀ ok, destroy ∈ todo →
    destroy ∈ follow ok todo ∨ todo.head? = some destroy ∨ make ∈ todo
  resume : make ≠ .paused ∧ make ≠ .exitTest ∧ destroy ≠ .paused ∧ destroy ≠ .exitTest

theorem brackets_tables : Brackets .tablesCreate .tablesDestroy :=
  ⟨by decide, by decide +kernel, by decide +kernel, by decide +kernel, by decide +kernel, by decide⟩

theorem brackets_contexts : Brackets .contextsInit .contextsDestroy :=
  ⟨by decide, by decide +kernel, by decide +kernel, by decide +kernel, by decide +kernel, by decide⟩

theorem brackets_server : Brackets .serverStart .serverStop :=
  ⟨by decide, by decide +kernel, by decide +kernel, by decide +kernel, by decide +kernel, by decide⟩

/-- No thread is made without the resource, and none is left to join without it. -/
structure Covers (make destroy : WorkStep) : Prop where
  before : ∀ todo ∈ lists, ∀ thread, make ∈ todo → .create thread ∈ todo
  made : ∀ todo ∈ lists, ∀ thread, todo.head? = some (.create thread) → make ∉ todo
  after : ∀ todo ∈ lists, ∀ thread, .join thread ∈ todo → destroy ∈ todo
  creates : ∀ todo ∈ lists, ∀ ok thread, .create thread ∈ follow ok todo → make ∈ todo →
    make ∈ follow ok todo ∨ todo.head? = some make

theorem covers_tables : Covers .tablesCreate .tablesDestroy :=
  ⟨by decide +kernel, by decide +kernel, by decide +kernel, by decide +kernel⟩

theorem covers_contexts : Covers .contextsInit .contextsDestroy :=
  ⟨by decide +kernel, by decide +kernel, by decide +kernel, by decide +kernel⟩

/-- The server is started after the test that every thread is up, and not after a failure. -/
structure ServerOrder : Prop where
  /-- A step that does not fail for good leaves the start of the server before `work`. -/
  kept : ∀ todo ∈ lists, ∀ ok,
    ok = true ∨ todo.head?.bind failure = none → todo.head? ≠ some .serverStart →
      (.serverStart ∈ follow ok todo ↔ .serverStart ∈ todo)
  givenUp : ∀ todo ∈ lists, todo.head?.bind failure ≠ none →
    .serverStart ∈ todo ∧ .serverStart ∉ follow false todo
  tested : ∀ todo ∈ lists, ∀ thread, todo.head? = some .isstarted →
    .create thread ∉ todo
  checked : ∀ todo ∈ lists, ∀ ok,
    .serverStart ∈ follow ok todo → .isstarted ∉ follow ok todo →
      .isstarted ∉ todo ∨ ok = true ∧ todo.head? = some .isstarted
  checkedBefore : ∀ todo ∈ lists, todo.head? = some .serverStart → .isstarted ∉ todo

theorem serverOrder : ServerOrder where
  kept := by decide +kernel
  givenUp := by decide +kernel
  tested := by decide +kernel
  checked := by decide +kernel
  checkedBefore := by decide +kernel

/-- The alive mutex is held from before the activator is made to `alive_mutex_die`. -/
structure AliveMutexOrder : Prop where
  follows : ∀ todo ∈ lists, ∀ ok,
    (.aliveMutexLock ∈ follow ok todo → .aliveMutexLock ∈ todo ∧ todo.head? ≠ some .aliveMutexLock) ∧
    (.create .proxyActivator ∈ follow ok todo → .aliveMutexLock ∈ todo →
      .aliveMutexLock ∈ follow ok todo ∨ todo.head? = some .aliveMutexLock) ∧
    (todo.head? = some .aliveMutexLock →
      .aliveMutexDie ∈ follow ok todo ∧ .create .proxyActivator ∈ follow ok todo)
  /-- The alive mutex is made before it is taken, and taken before the activator is made. -/
  head : ∀ todo ∈ lists,
    (todo.head? = some .aliveMutexCreate → .aliveMutexLock ∈ todo ∧ .create .proxyActivator ∈ todo) ∧
    (todo.head? = some (.create .proxyActivator) → .aliveMutexLock ∉ todo) ∧
    (todo.head? = some .aliveMutexDie → .create .proxyActivator ∉ todo)
  die : ∀ todo ∈ lists, ∀ ok, .aliveMutexDie ∈ todo → .aliveMutexLock ∉ todo →
    .aliveMutexDie ∈ follow ok todo ∨ todo.head? = some .aliveMutexDie ∨
      ok = false ∧ todo.head? = some .isstarted
  activator : ∀ todo ∈ lists, ∀ ok, .create .proxyActivator ∈ todo →
    .aliveMutexLock ∉ todo → .create .proxyActivator ∈ follow ok todo ∨
      ok = true ∧ todo.head? = some (.create .proxyActivator) ∨
      (follow ok todo).head? = some .aliveMutexDie

theorem aliveMutexOrder : AliveMutexOrder where
  follows := by decide +kernel
  head := by decide +kernel
  die := by decide +kernel
  activator := by decide +kernel

theorem failure_ne_ok {w : WorkStep} {result : WorkResult} (h : w.failure = some result) :
    result ≠ .ok := by
  cases w <;> cases h <;> decide

end WorkStep

namespace Resource

variable {make destroy : WorkStep} {r : Resource} {todo : List WorkStep}

/-- What a step makes of a resource. -/
def after (make destroy w : WorkStep) (ok : Bool) (r : Resource) : Resource :=
  if w = make then if ok then .made else r else if w = destroy then r.destroy else r

/-- The resource is there from its making to its destruction. -/
structure Placed (make destroy : WorkStep) (r : Resource) (todo : List WorkStep) : Prop where
  unmade : make ∈ todo → r = .absent
  made : r = .made → destroy ∈ todo
  destroyed : r = .destroyed → destroy ∉ todo

theorem Placed.follow (h : Placed make destroy r todo) (hBrackets : WorkStep.Brackets make destroy)
    (hListed : todo ∈ WorkStep.lists) {w : WorkStep} (hHead : todo.head? = some w) (ok : Bool) :
    Placed make destroy (r.after make destroy w ok) (WorkStep.follow ok todo) := by
  have hMem : w ∈ todo := List.mem_of_mem_head? hHead
  unfold after
  constructor
  case unmade =>
    intro hMake
    obtain ⟨hOld, hNot⟩ := hBrackets.makeOnce todo hListed ok hMake
    have hNe : w ≠ make := fun hEq => hNot (hEq ▸ hHead)
    rw [if_neg hNe, h.unmade hOld]
    split <;> rfl
  case made =>
    intro hMade
    by_cases hMake : w = make
    · subst hMake
      rw [if_pos rfl, h.unmade hMem] at hMade
      cases ok with
      | true => exact hBrackets.follows todo hListed hHead
      | false => cases hMade
    · rw [if_neg hMake] at hMade
      by_cases hDestroy : w = destroy
      · rw [if_pos hDestroy] at hMade
        cases r <;> cases hMade
      · rw [if_neg hDestroy] at hMade
        rcases hBrackets.kept todo hListed ok (h.made hMade) with hKept | hIs | hMake'
        · exact hKept
        · exact absurd (Option.some.inj (hHead.symm.trans hIs)) hDestroy
        · rw [h.unmade hMake'] at hMade
          cases hMade
  case destroyed =>
    intro hDestroyed hIn
    obtain ⟨hOld, hNot⟩ := hBrackets.destroyOnce todo hListed ok hIn
    have hNe : w ≠ destroy := fun hEq => hNot (hEq ▸ hHead)
    by_cases hMake : w = make
    · subst hMake
      rw [if_pos rfl, h.unmade hMem] at hDestroyed
      cases ok <;> cases hDestroyed
    · rw [if_neg hMake, if_neg hNe] at hDestroyed
      exact h.destroyed hDestroyed hOld

theorem Placed.resume (h : Placed make destroy r todo) (hBrackets : WorkStep.Brackets make destroy) :
    Placed make destroy r (WorkStep.resume todo) := by
  obtain ⟨hPaused, hTest, hPaused', hTest'⟩ := hBrackets.resume
  constructor
  · rw [WorkStep.mem_resume_iff hPaused hTest]
    exact h.unmade
  · rw [WorkStep.mem_resume_iff hPaused' hTest']
    exact h.made
  · rw [WorkStep.mem_resume_iff hPaused' hTest']
    exact h.destroyed

end Resource

namespace Work

variable {s : Work}

@[simp] theorem setThread_tables (thread : WorkThread) (l : StoppableLoop) :
    (s.setThread thread l).tables = s.tables := rfl

@[simp] theorem setThread_contexts (thread : WorkThread) (l : StoppableLoop) :
    (s.setThread thread l).contexts = s.contexts := rfl

@[simp] theorem setThread_server (thread : WorkThread) (l : StoppableLoop) :
    (s.setThread thread l).server = s.server := rfl

@[simp] theorem setThread_result (thread : WorkThread) (l : StoppableLoop) :
    (s.setThread thread l).result = s.result := rfl

theorem step_resources (ok : Bool) (w : WorkStep) :
    (s.step ok w).tables = s.tables.after .tablesCreate .tablesDestroy w (s.outcome ok w) ∧
    (s.step ok w).contexts = s.contexts.after .contextsInit .contextsDestroy w (s.outcome ok w) ∧
    (s.step ok w).server = s.server.after .serverStart .serverStop w (s.outcome ok w) := by
  unfold step Resource.after
  cases hOutcome : s.outcome ok w with
  | true =>
    cases w with
    | stopLock thread | stop thread => by_cases hUp : s.isstarted thread = true <;> simp [act, hUp]
    | _ => simp [act]
  | false =>
    cases w <;> first | (cases hOutcome; done) | simp [fail, WorkStep.failure]

/-- The result is that of the step that failed. -/
theorem step_result (ok : Bool) (w : WorkStep) :
    (s.step ok w).result =
      if s.outcome ok w then s.result else w.failure.getD s.result := by
  unfold step
  split
  · cases w with
    | stopLock | stop => simp only [act]; split <;> simp
    | _ => rfl
  · unfold fail
    split <;> simp [*]

/-- While the resource is not there, no thread is. -/
def Needs (make : WorkStep) (r : Resource) (s : Work) : Prop :=
  r = .absent → ∀ thread, (s.threads thread).pc = .absent ∧ (.create thread ∈ s.todo → make ∈ s.todo)

theorem Needs.work {make destroy : WorkStep} {r : Resource} (h : s.Needs make r) (hOrdered : s.Ordered)
    (hCovers : WorkStep.Covers make destroy) {w : WorkStep} (hHead : s.todo.head? = some w) (ok : Bool)
    (hMake : w = make → s.outcome ok w = true) :
    Needs make (r.after make destroy w (s.outcome ok w))
      { s.step ok w with todo := WorkStep.follow (s.outcome ok w) s.todo } := by
  intro hAfter thread
  have hNe : w ≠ make := by
    intro hEq
    rw [Resource.after, if_pos hEq, hMake hEq] at hAfter
    cases hAfter
  have hAbsent : r = .absent := by
    rw [Resource.after, if_neg hNe] at hAfter
    split at hAfter
    · cases r <;> simp_all [Resource.destroy]
    · exact hAfter
  obtain ⟨hPc, hFirst⟩ := h hAbsent thread
  constructor
  · rcases s.step_threads ok w thread with ⟨rfl, -, -⟩ | ⟨-, hUp, -⟩ | ⟨-, hUp, -⟩ | ⟨hEq, -, -⟩
    · exact absurd (hFirst (List.mem_of_mem_head? hHead)) (hCovers.made _ hOrdered.listed thread hHead)
    · exact absurd hPc (pc_ne_of_isstarted hUp)
    · exact absurd hPc (pc_ne_of_isstarted hUp)
    · simpa only [hEq] using hPc
  · intro hMem
    have hOld := (WorkStep.stepOrder.create _ hOrdered.listed _ thread hMem).1
    exact (hCovers.creates _ hOrdered.listed _ thread hMem (hFirst hOld)).resolve_right
      fun hIs => hNe (Option.some.inj (hHead.symm.trans hIs))

/-- The resources are in their places, and the result tells whether the server was ever started. -/
structure Stocked (s : Work) : Prop where
  tables : s.tables.Placed .tablesCreate .tablesDestroy s.todo
  contexts : s.contexts.Placed .contextsInit .contextsDestroy s.todo
  server : s.server.Placed .serverStart .serverStop s.todo
  needsTables : s.Needs .tablesCreate s.tables
  needsContexts : s.Needs .contextsInit s.contexts
  result : s.result = .ok ↔ s.server ≠ .absent ∨ .serverStart ∈ s.todo

theorem stocked_started : Stocked started where
  tables := ⟨fun _ => rfl, nofun, nofun⟩
  contexts := ⟨fun _ => rfl, nofun, nofun⟩
  server := ⟨fun _ => rfl, nofun, nofun⟩
  needsTables _ _ := ⟨rfl, fun _ => by decide⟩
  needsContexts _ _ := ⟨rfl, fun _ => by decide⟩
  result := ⟨fun _ => .inr (by decide), fun _ => rfl⟩

theorem Needs.evolve {make : WorkStep} {r : Resource} (h : s.Needs make r) {thread : WorkThread}
    {l : StoppableLoop} (hEvolves : (s.threads thread).Evolves thread.shape l) :
    (s.setThread thread l).Needs make r := by
  intro hAbsent other
  obtain ⟨hPc, hFirst⟩ := h hAbsent other
  refine ⟨?_, hFirst⟩
  rw [setThread_threads]
  split
  · next hEq => subst hEq; exact hEvolves.absent.mpr hPc
  · exact hPc

theorem Stocked.evolve (h : s.Stocked) {thread : WorkThread} {l : StoppableLoop}
    (hEvolves : (s.threads thread).Evolves thread.shape l) : (s.setThread thread l).Stocked where
  tables := h.tables
  contexts := h.contexts
  server := h.server
  needsTables := h.needsTables.evolve hEvolves
  needsContexts := h.needsContexts.evolve hEvolves
  result := h.result

theorem Stocked.work (h : s.Stocked) (hOrdered : s.Ordered) {w : WorkStep}
    (hHead : s.todo.head? = some w) (ok : Bool) :
    ({ s.step ok w with todo := WorkStep.follow (s.outcome ok w) s.todo } : Work).Stocked := by
  have hListed := hOrdered.listed
  obtain ⟨hTables, hContexts, hServer⟩ := s.step_resources ok w
  constructor <;> simp only [hTables, hContexts, hServer, s.step_result]
  case tables => exact h.tables.follow WorkStep.brackets_tables hListed hHead _
  case contexts => exact h.contexts.follow WorkStep.brackets_contexts hListed hHead _
  case server => exact h.server.follow WorkStep.brackets_server hListed hHead _
  case needsTables =>
    exact h.needsTables.work hOrdered WorkStep.covers_tables hHead ok (by rintro rfl; rfl)
  case needsContexts =>
    exact h.needsContexts.work hOrdered WorkStep.covers_contexts hHead ok (by rintro rfl; rfl)
  case result =>
    by_cases hStart : w = .serverStart
    · subst hStart
      have hMem := List.mem_of_mem_head? hHead
      have hOk := h.result.mpr (.inr hMem)
      have hGone := (WorkStep.brackets_server.makeOnce _ hListed (s.outcome ok .serverStart)).mt
        (fun hAnd => hAnd.2 hHead)
      cases hOutcome : s.outcome ok .serverStart with
      | true => simp [Resource.after, hOk]
      | false =>
        rw [hOutcome] at hGone
        simp [Resource.after, h.server.unmade hMem, hGone, WorkStep.failure]
    · have hServer' : (s.server.after .serverStart .serverStop w (s.outcome ok w)) ≠ .absent ↔
          s.server ≠ .absent := by
        rw [Resource.after, if_neg hStart]
        split
        · cases s.server <;> simp [Resource.destroy]
        · rfl
      rw [hServer']
      cases hFailure : w.failure with
      | none =>
        rw [WorkStep.serverOrder.kept _ hListed _ (.inr (by rw [hHead]; exact hFailure))
          (by rw [hHead]; exact fun hEq => hStart (Option.some.inj hEq))]
        simpa using h.result
      | some result =>
        cases hOutcome : s.outcome ok w with
        | true =>
          rw [WorkStep.serverOrder.kept _ hListed _ (.inl rfl)
            (by rw [hHead]; exact fun hEq => hStart (Option.some.inj hEq))]
          simpa using h.result
        | false =>
          obtain ⟨hMem, hGone⟩ := WorkStep.serverOrder.givenUp _ hListed
            (by rw [hHead]; simp [hFailure])
          simp [WorkStep.failure_ne_ok hFailure, h.server.unmade hMem, hGone]

theorem Stocked.sigterm (h : s.Stocked) :
    ({ s with gonggoExit := true, todo := WorkStep.resume s.todo } : Work).Stocked := by
  have hNeeds : ∀ {make : WorkStep} {r : Resource}, make ≠ .paused → make ≠ .exitTest →
      s.Needs make r → Needs make r { s with gonggoExit := true, todo := WorkStep.resume s.todo } := by
    intro make r hPaused hTest hOld hAbsent thread
    rw [WorkStep.mem_resume_iff (by simp) (by simp), WorkStep.mem_resume_iff hPaused hTest]
    exact hOld hAbsent thread
  exact {
    tables := h.tables.resume WorkStep.brackets_tables
    contexts := h.contexts.resume WorkStep.brackets_contexts
    server := h.server.resume WorkStep.brackets_server
    needsTables := hNeeds (by simp) (by simp) h.needsTables
    needsContexts := hNeeds (by simp) (by simp) h.needsContexts
    result := by
      rw [WorkStep.mem_resume_iff (by simp) (by simp)]
      exact h.result }

/-! ## The alive mutex -/

/-- `work` has the alive mutex from before the activator is made until gonggo is no longer alive. -/
structure Watched (s : Work) : Prop where
  free : .aliveMutexLock ∈ s.todo → s.aliveOwner ≠ some .work
  first : .create .proxyActivator ∈ s.todo → .aliveMutexLock ∈ s.todo ∨ s.aliveOwner = some .work
  last : ∀ thread, .create .proxyActivator ∈ s.todo →
    .create thread ∈ s.todo ∨ (s.threads thread).pc ≠ .absent
  whole : (s.threads .proxyActivator).pc ≠ .absent → ∀ thread, (s.threads thread).pc ≠ .absent
  dead : (s.threads .proxyActivator).pc ≠ .absent → s.aliveOwner = some .work ∨ s.alive = false
  held : s.aliveOwner = some .work → .aliveMutexDie ∈ s.todo ∧
    (.create .proxyActivator ∈ s.todo ∨ (s.threads .proxyActivator).pc ≠ .absent ∨
      s.todo.head? = some .aliveMutexDie)

theorem watched_started : Watched started where
  free _ := nofun
  first _ := .inl (by decide)
  last thread _ := .inl (by cases thread <;> decide)
  whole h := absurd rfl h
  dead h := absurd rfl h
  held := nofun

theorem Watched.evolve (h : s.Watched) {thread : WorkThread} {l : StoppableLoop}
    (hEvolves : (s.threads thread).Evolves thread.shape l) : (s.setThread thread l).Watched := by
  have hAll : ∀ other, ((s.setThread thread l).threads other).pc = .absent ↔
      (s.threads other).pc = .absent := by
    intro other
    rw [setThread_threads]
    split
    · next hEq => subst hEq; exact hEvolves.absent
    · rfl
  constructor
  case free => exact h.free
  case first => exact h.first
  case last =>
    intro other hMem
    rw [ne_eq, hAll]
    exact h.last other hMem
  case whole =>
    simp only [ne_eq, hAll]
    exact h.whole
  case dead =>
    rw [ne_eq, hAll]
    exact h.dead
  case held =>
    rw [ne_eq, hAll]
    exact h.held

theorem step_alive (ok : Bool) (w : WorkStep) :
    (s.step ok w).aliveOwner =
      (if w = .aliveMutexCreate ∧ s.outcome ok w = true then none
      else if w = .aliveMutexLock then some .work
      else if w = .aliveMutexDie ∧ s.aliveOwner = some .work then none else s.aliveOwner) ∧
    (s.step ok w).alive =
      (if w = .aliveMutexCreate ∧ s.outcome ok w = true then true
      else if w = .aliveMutexDie then false else s.alive) := by
  unfold step
  cases hOutcome : s.outcome ok w with
  | true =>
    cases w with
    | stopLock thread | stop thread =>
      by_cases hUp : s.isstarted thread = true <;> simp [act, hUp, setThread]
    | _ => simp [act, setThread]
  | false =>
    cases w <;> first | (cases hOutcome; done) | simp [fail, WorkStep.failure]

section Step

variable {w : WorkStep} {ok : Bool} {thread : WorkThread}

theorem pc_step_ne (h : (s.threads thread).pc ≠ .absent) : ((s.step ok w).threads thread).pc ≠ .absent := by
  rcases s.step_threads ok w thread with ⟨-, -, hEq⟩ | ⟨-, -, hEq⟩ | ⟨-, -, hEq⟩ | ⟨hEq, -, -⟩ <;>
    rw [hEq]
  · simp
  · exact h
  · rwa [ne_eq, StoppableLoop.pc_stop_absent_iff]
  · exact h

/-- A thread that is there was made before, or in this step. -/
theorem made_of_pc_step_ne (h : ((s.step ok w).threads thread).pc ≠ .absent) :
    (s.threads thread).pc ≠ .absent ∨ w = .create thread ∧ s.outcome ok w = true := by
  rcases s.step_threads ok w thread with ⟨rfl, hOk, -⟩ | ⟨-, hUp, -⟩ | ⟨-, hUp, -⟩ | ⟨hEq, -, -⟩
  · exact .inr ⟨rfl, hOk⟩
  · exact .inl (pc_ne_of_isstarted hUp)
  · exact .inl (pc_ne_of_isstarted hUp)
  · exact .inl (hEq ▸ h)

theorem pc_create_ne (hIs : w = .create thread) (hTrue : s.outcome ok w = true) :
    ((s.step ok w).threads thread).pc ≠ .absent := by
  subst hIs
  rcases s.step_threads ok (.create thread) thread with ⟨-, -, hEq⟩ | ⟨hIs, -, -⟩ | ⟨hIs, -, -⟩ |
    ⟨-, hFalse, -⟩
  · simp [hEq]
  · cases hIs
  · cases hIs
  · rw [outcome, hFalse rfl] at hTrue
    cases hTrue

theorem Watched.free_step (h : s.Watched) (hOrdered : s.Ordered) (hHead : s.todo.head? = some w)
    (hMem : .aliveMutexLock ∈ WorkStep.follow (s.outcome ok w) s.todo) :
    (s.step ok w).aliveOwner ≠ some .work := by
  obtain ⟨hOld, hNot⟩ := (WorkStep.aliveMutexOrder.follows _ hOrdered.listed (s.outcome ok w)).1 hMem
  have hFree := h.free hOld
  rw [(s.step_alive ok w).1, if_neg (fun hEq : w = .aliveMutexLock => hNot (hEq ▸ hHead))]
  split
  · simp
  · split
    · simp
    · exact hFree

theorem Watched.first_step (h : s.Watched) (hOrdered : s.Ordered) (hHead : s.todo.head? = some w)
    (hMem : .create .proxyActivator ∈ WorkStep.follow (s.outcome ok w) s.todo) :
    .aliveMutexLock ∈ WorkStep.follow (s.outcome ok w) s.todo ∨
      (s.step ok w).aliveOwner = some .work := by
  obtain ⟨-, hCreateLock, -⟩ := WorkStep.aliveMutexOrder.follows _ hOrdered.listed (s.outcome ok w)
  obtain ⟨hMakeFirst, -, hDieLast⟩ := WorkStep.aliveMutexOrder.head _ hOrdered.listed
  have hOld := (WorkStep.stepOrder.create _ hOrdered.listed _ _ hMem).1
  rw [(s.step_alive ok w).1]
  rcases h.first hOld with hIn | hWork
  · rcases hCreateLock hMem hIn with hStill | hIs
    · exact .inl hStill
    · obtain rfl : w = .aliveMutexLock := Option.some.inj (hHead.symm.trans hIs)
      exact .inr (by simp)
  · have hCreate : w ≠ .aliveMutexCreate := fun hEq => h.free (hMakeFirst (hEq ▸ hHead)).1 hWork
    have hDie : w ≠ .aliveMutexDie := fun hEq => hDieLast (hEq ▸ hHead) hOld
    exact .inr (by simp [hCreate, hDie, hWork])

theorem Watched.last_step (h : s.Watched) (hOrdered : s.Ordered) (hHead : s.todo.head? = some w)
    (hMem : .create .proxyActivator ∈ WorkStep.follow (s.outcome ok w) s.todo) :
    .create thread ∈ WorkStep.follow (s.outcome ok w) s.todo ∨
      ((s.step ok w).threads thread).pc ≠ .absent := by
  have hOld := (WorkStep.stepOrder.create _ hOrdered.listed _ _ hMem).1
  rcases h.last thread hOld with hIn | hNe
  · exact (WorkStep.stepOrder.activatorLast _ hOrdered.listed _ thread hMem hIn).imp id
      fun hIs => pc_create_ne (Option.some.inj (hHead.symm.trans hIs.1)) hIs.2
  · exact .inr (pc_step_ne hNe)

theorem Watched.whole_step (h : s.Watched) (hOrdered : s.Ordered) (hHead : s.todo.head? = some w)
    (hActivator : ((s.step ok w).threads .proxyActivator).pc ≠ .absent) :
    ((s.step ok w).threads thread).pc ≠ .absent := by
  rcases made_of_pc_step_ne hActivator with hNe | ⟨rfl, -⟩
  · exact pc_step_ne (h.whole hNe thread)
  · rcases h.last thread (List.mem_of_mem_head? hHead) with hIn | hNe
    · obtain rfl := WorkStep.stepOrder.activatorAlone _ hOrdered.listed thread hHead hIn
      exact hActivator
    · exact pc_step_ne hNe

theorem Watched.dead_step (h : s.Watched) (hOrdered : s.Ordered) (hHead : s.todo.head? = some w)
    (hActivator : ((s.step ok w).threads .proxyActivator).pc ≠ .absent) :
    (s.step ok w).aliveOwner = some .work ∨ (s.step ok w).alive = false := by
  obtain ⟨hMakeFirst, hTaken, -⟩ := WorkStep.aliveMutexOrder.head _ hOrdered.listed
  obtain ⟨hOwner, hAlive⟩ := s.step_alive ok w
  rw [hOwner, hAlive]
  rcases made_of_pc_step_ne hActivator with hNe | ⟨rfl, -⟩
  · have hCreate : w ≠ .aliveMutexCreate := fun hEq =>
      hNe (hOrdered.absent _ (hMakeFirst (hEq ▸ hHead)).2)
    by_cases hDie : w = .aliveMutexDie
    · exact .inr (by simp [hDie])
    · rcases h.dead hNe with hWork | hDead
      · exact .inl (by simp [hCreate, hDie, hWork])
      · exact .inr (by simp [hCreate, hDead])
  · rcases h.first (List.mem_of_mem_head? hHead) with hIn | hWork
    · exact absurd hIn (hTaken hHead)
    · exact .inl (by simp [hWork])

/-- `work` takes the mutex in this step, or keeps it. -/
theorem took_or_kept_of_step (hWork : (s.step ok w).aliveOwner = some .work) :
    w = .aliveMutexLock ∨ w ≠ .aliveMutexDie ∧ s.aliveOwner = some .work := by
  rw [(s.step_alive ok w).1] at hWork
  by_cases hIsLock : w = .aliveMutexLock
  · exact .inl hIsLock
  · rw [if_neg hIsLock] at hWork
    split at hWork
    · cases hWork
    · split at hWork
      · cases hWork
      · next hNot => exact .inr ⟨fun hEq => hNot ⟨hEq, hWork⟩, hWork⟩

theorem Watched.held_step (h : s.Watched) (hOrdered : s.Ordered) (hHead : s.todo.head? = some w)
    (hWork : (s.step ok w).aliveOwner = some .work) :
    .aliveMutexDie ∈ WorkStep.follow (s.outcome ok w) s.todo ∧
      (.create .proxyActivator ∈ WorkStep.follow (s.outcome ok w) s.todo ∨
        ((s.step ok w).threads .proxyActivator).pc ≠ .absent ∨
        (WorkStep.follow (s.outcome ok w) s.todo).head? = some .aliveMutexDie) := by
  have hListed := hOrdered.listed
  rcases took_or_kept_of_step hWork with hIsLock | ⟨hNotDie, hOwner⟩
  · obtain ⟨hDie, hCreate⟩ :=
      (WorkStep.aliveMutexOrder.follows _ hListed (s.outcome ok w)).2.2 (hIsLock ▸ hHead)
    exact ⟨hDie, .inl hCreate⟩
  · obtain ⟨hDie, hStage⟩ := h.held hOwner
    have hTodoDie : s.todo.head? ≠ some .aliveMutexDie := fun hEq =>
      hNotDie (Option.some.inj (hHead.symm.trans hEq))
    have hNotLock : .aliveMutexLock ∉ s.todo := fun hIn => h.free hIn hOwner
    constructor
    · rcases WorkStep.aliveMutexOrder.die _ hListed (s.outcome ok w) hDie hNotLock with hIn | hIs |
        ⟨hFalse, hIs⟩
      · exact hIn
      · exact absurd hIs hTodoDie
      · -- the activator is up, and with it every other thread
        have hActivator := (hStage.resolve_left
          (WorkStep.serverOrder.tested _ hListed _ hIs)).resolve_right hTodoDie
        obtain rfl : w = .isstarted := Option.some.inj (hHead.symm.trans hIs)
        have hUp : s.outcome ok .isstarted = true := decide_eq_true fun thread =>
          ((hOrdered.up thread).resolve_left (h.whole hActivator thread)).resolve_right
            (by rw [hHead]; simp)
        rw [hUp] at hFalse
        cases hFalse
    · rcases hStage with hIn | hNe | hIs
      · rcases WorkStep.aliveMutexOrder.activator _ hListed (s.outcome ok w) hIn hNotLock with hStill |
          ⟨hTrue, hIs⟩ | hNext
        · exact .inl hStill
        · exact .inr (.inl (pc_create_ne (Option.some.inj (hHead.symm.trans hIs)) hTrue))
        · exact .inr (.inr hNext)
      · exact .inr (.inl (pc_step_ne hNe))
      · exact absurd hIs hTodoDie

theorem Watched.work (h : s.Watched) (hOrdered : s.Ordered) (hHead : s.todo.head? = some w) (ok : Bool) :
    ({ s.step ok w with todo := WorkStep.follow (s.outcome ok w) s.todo } : Work).Watched where
  free hMem := h.free_step hOrdered hHead hMem
  first hMem := h.first_step hOrdered hHead hMem
  last _ hMem := h.last_step hOrdered hHead hMem
  whole hActivator _ := h.whole_step hOrdered hHead hActivator
  dead hActivator := h.dead_step hOrdered hHead hActivator
  held hWork := h.held_step hOrdered hHead hWork

end Step

theorem Watched.sigterm (h : s.Watched) :
    ({ s with gonggoExit := true, todo := WorkStep.resume s.todo } : Work).Watched := by
  constructor
  case free =>
    rw [WorkStep.mem_resume_iff (by simp) (by simp)]
    exact h.free
  case first =>
    rw [WorkStep.mem_resume_iff (by simp) (by simp), WorkStep.mem_resume_iff (by simp) (by simp)]
    exact h.first
  case last =>
    intro thread
    rw [WorkStep.mem_resume_iff (by simp) (by simp), WorkStep.mem_resume_iff (by simp) (by simp)]
    exact h.last thread
  case whole => exact h.whole
  case dead => exact h.dead
  case held =>
    rw [WorkStep.mem_resume_iff (by simp) (by simp), WorkStep.mem_resume_iff (by simp) (by simp),
      WorkStep.head_resume_iff (by simp) (by simp)]
    exact h.held

/-- The mutex passes between the proxies while `work` does not have it. -/
theorem Watched.pass (h : s.Watched) (hOwner : s.aliveOwner ≠ some .work) {owner : Option AliveOwner}
    (hNew : owner ≠ some .work) : ({ s with aliveOwner := owner } : Work).Watched where
  free _ := hNew
  first hMem := .inl ((h.first hMem).resolve_right hOwner)
  last := h.last
  whole := h.whole
  dead hNe := .inr ((h.dead hNe).resolve_left hOwner)
  held hEq := absurd hEq hNew

/-! ## Every run of work -/

/-- The server is started when every thread is up. -/
def Served (s : Work) : Prop :=
  s.server ≠ .absent ∨ .serverStart ∈ s.todo ∧ .isstarted ∉ s.todo → ∀ thread, s.isstarted thread = true

theorem Served.evolve (h : s.Served) {thread : WorkThread} {l : StoppableLoop}
    (hEvolves : (s.threads thread).Evolves thread.shape l) : (s.setThread thread l).Served := by
  intro hServer other
  rw [isstarted, setThread_threads]
  split
  · next hEq => subst hEq; exact hEvolves.started (h hServer other)
  · exact h hServer other

theorem Served.work (h : s.Served) (hOrdered : s.Ordered) {w : WorkStep}
    (hHead : s.todo.head? = some w) (ok : Bool) :
    ({ s.step ok w with todo := WorkStep.follow (s.outcome ok w) s.todo } : Work).Served := by
  have hListed := hOrdered.listed
  intro hServer thread
  have hOld : s.isstarted thread = true := by
    rcases hServer with hServer | ⟨hStart, hNot⟩
    · simp only [(s.step_resources ok w).2.2, Resource.after] at hServer
      split at hServer
      · next hEq =>
        subst hEq
        have hChecked := WorkStep.serverOrder.checkedBefore _ hListed hHead
        exact h (.inr ⟨List.mem_of_mem_head? hHead, hChecked⟩) thread
      · refine h (.inl fun hAbsent => hServer ?_) thread
        rw [hAbsent]
        split <;> rfl
    · rcases WorkStep.serverOrder.checked _ hListed _ hStart hNot with hOld | ⟨hUp, hIs⟩
      · exact h (.inr ⟨(WorkStep.brackets_server.makeOnce _ hListed _ hStart).1, hOld⟩) thread
      · obtain rfl : w = .isstarted := Option.some.inj (hHead.symm.trans hIs)
        exact of_decide_eq_true hUp thread
  rcases s.step_threads ok w thread with ⟨rfl, -, -⟩ | ⟨-, -, hEq⟩ | ⟨-, -, hEq⟩ | ⟨hEq, -, -⟩
  · exact absurd (hOrdered.absent thread (List.mem_of_mem_head? hHead)) (pc_ne_of_isstarted hOld)
  · simp only [isstarted, hEq]
    exact hOld
  · simp only [isstarted, hEq]
    exact StoppableLoop.started_stop hOld
  · simp only [isstarted, hEq]
    exact hOld

theorem Served.sigterm (h : s.Served) :
    ({ s with gonggoExit := true, todo := WorkStep.resume s.todo } : Work).Served := by
  unfold Served
  rw [WorkStep.mem_resume_iff (by simp) (by simp), WorkStep.mem_resume_iff (by simp) (by simp)]
  exact h

structure Managed (s : Work) : Prop where
  ordered : s.Ordered
  stocked : s.Stocked
  watched : s.Watched
  served : s.Served

theorem managed_started : Managed started :=
  ⟨ordered_started, stocked_started, watched_started, by unfold Served; decide⟩

theorem Managed.evolve (h : s.Managed) {thread : WorkThread} {l : StoppableLoop}
    (hSound : l.Sound thread.shape) (hEvolves : (s.threads thread).Evolves thread.shape l) :
    (s.setThread thread l).Managed :=
  ⟨h.ordered.evolve hSound hEvolves, h.stocked.evolve hEvolves, h.watched.evolve hEvolves,
    h.served.evolve hEvolves⟩

theorem Managed.effect (h : s.Managed) {e : WorkEvent} (hGuard : e.guard s) : (e.effect s).Managed := by
  have hLoops := h.ordered.loops
  cases e with
  | work ok =>
    obtain ⟨w, hHead, hEnabled⟩ := hGuard
    obtain ⟨rest, hTodo⟩ := List.head?_eq_some_iff.mp hHead
    have hEffect : (WorkEvent.work ok).effect s =
        { s.step ok w with todo := WorkStep.follow (s.outcome ok w) s.todo } := by
      simp only [WorkEvent.effect, hTodo, WorkStep.follow]
    rw [hEffect]
    exact ⟨h.ordered.work hHead hEnabled ok, h.stocked.work h.ordered hHead ok,
      h.watched.work h.ordered hHead ok, h.served.work h.ordered hHead ok⟩
  | run thread pause =>
    exact h.evolve ((hLoops thread).run hGuard.1 pause) (.run (hLoops thread) hGuard.1 pause)
  | wake thread => exact h.evolve (hLoops thread).wake .wake
  | lock thread =>
    exact h.evolve ((hLoops thread).lockBy hGuard.2.2 (by simp)) (.lockBy hGuard.2.2 (by simp))
  | unlock thread signals =>
    have hOwner : (s.threads thread).owner = some .caller := hGuard
    cases signals with
    | true => exact h.evolve ((hLoops thread).call hOwner) (.call (by simp [hOwner]))
    | false => exact h.evolve ((hLoops thread).unlock (by simp [hOwner])) (.unlock (by simp [hOwner]))
  | aliveLock =>
    have hNone : s.aliveOwner = none := hGuard
    exact ⟨{ h.ordered with }, { h.stocked with }, h.watched.pass (by simp [hNone]) (by simp), h.served⟩
  | aliveUnlock =>
    have hProxy : s.aliveOwner = some .proxy := hGuard
    exact ⟨{ h.ordered with }, { h.stocked with }, h.watched.pass (by simp [hProxy]) (by simp), h.served⟩
  | sigterm => exact ⟨h.ordered.sigterm, h.stocked.sigterm, h.watched.sigterm, h.served.sigterm⟩
  | hold | release => exact ⟨{ h.ordered with }, { h.stocked with }, { h.watched with }, h.served⟩

theorem managed_of_reachableWhen {cond : Work → WorkEvent → Prop}
    (h : workSystem.ReachableWhen cond s) : s.Managed :=
  h.invariant Managed (by rintro _ rfl; exact managed_started)
    fun _ _ hManaged hGuard _ => hManaged.effect hGuard

/-- What `work` owes to its threads, to the proxies and to its caller. -/
structure Safe (s : Work) : Prop where
  supplied : ∀ thread, (s.threads thread).gone = false → s.tables = .made ∧ s.contexts = .made
  served : s.server ≠ .absent → ∀ thread, s.isstarted thread = true
  stopped : ∀ thread, (s.threads thread).ended = true →
    s.gonggoExit = true ∧ (s.threads thread).pc ≠ .waiting
  watched : (s.threads .proxyActivator).pc ≠ .absent → s.aliveOwner = some .work ∨ s.alive = false
  returned : s.todo = [] → (∀ thread, (s.threads thread).gone = true) ∧ s.tables ≠ .made ∧
    s.contexts ≠ .made ∧ s.server ≠ .made ∧ s.aliveOwner ≠ some .work ∧
    (s.result = .ok ↔ s.server ≠ .absent)

theorem Managed.made_of_not_gone (h : s.Managed) {make destroy : WorkStep} {r : Resource}
    (hCovers : WorkStep.Covers make destroy) (hPlaced : r.Placed make destroy s.todo)
    (hNeeds : s.Needs make r) {thread : WorkThread} (hGone : (s.threads thread).gone = false) :
    r = .made := by
  cases hCase : r with
  | absent =>
    have hTrue := StoppableLoop.gone_iff.mpr (.inl (hNeeds hCase thread).1)
    rw [hGone] at hTrue
    cases hTrue
  | made => rfl
  | destroyed =>
    have hJoin : .join thread ∉ s.todo := fun hIn =>
      hPlaced.destroyed hCase (hCovers.after _ h.ordered.listed thread hIn)
    have hTrue := h.ordered.joined thread hJoin
    rw [hGone] at hTrue
    cases hTrue

/-- In every order of the steps of `work`, its threads, the proxies and SIGTERM, and whichever step
fails, no thread runs without the tables and its context, a stop is not lost, a proxy that takes the alive
mutex while there is an activator finds gonggo dead, and a return leaves nothing behind. -/
theorem safe_of_reachable (h : workSystem.Reachable s) : s.Safe := by
  have hManaged := managed_of_reachableWhen h
  have hStocked := hManaged.stocked
  constructor
  case supplied =>
    intro thread hGone
    exact ⟨hManaged.made_of_not_gone WorkStep.covers_tables hStocked.tables hStocked.needsTables hGone,
      hManaged.made_of_not_gone WorkStep.covers_contexts hStocked.contexts hStocked.needsContexts hGone⟩
  case served => exact fun hServer => hManaged.served (.inl hServer)
  case stopped =>
    exact fun thread hEnded =>
      ⟨hManaged.ordered.untold thread hEnded, (hManaged.ordered.loops thread).notLost hEnded⟩
  case watched => exact hManaged.watched.dead
  case returned =>
    intro hDone
    have hNotMem : ∀ w, w ∉ s.todo := by simp [hDone]
    refine ⟨fun thread => hManaged.ordered.joined thread (hNotMem _),
      fun hMade => hNotMem _ (hStocked.tables.made hMade),
      fun hMade => hNotMem _ (hStocked.contexts.made hMade),
      fun hMade => hNotMem _ (hStocked.server.made hMade),
      fun hWork => hNotMem _ (hManaged.watched.held hWork).1, ?_⟩
    rw [hStocked.result]
    simp [hDone]

/-- The thread of the time-out cannot be made, and the drain is stopped on its way to its lock. -/
def sampleRun : List WorkEvent :=
  List.replicate 7 (.work true) ++ [.run .respondDrain false, .work true, .work false] ++
    List.replicate 10 (.work true) ++ List.replicate 3 (.run .respondDrain false) ++
    List.replicate 6 (.work true)

theorem safe_of_reachable_sampleRun :
    (workSystem.run .started sampleRun).todo = [] ∧ (workSystem.run .started sampleRun).Safe :=
  ⟨by decide +kernel,
    safe_of_reachable (TransitionSystem.ReachableWhen.run (.init rfl) sampleRun (by decide +kernel))⟩

end Work

end Gonggo
