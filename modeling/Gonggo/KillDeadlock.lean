import Gonggo.KillCalls
import Gonggo.Library.WaitGraph

/-! # Deadlock in the killing of proxies

Who waits for whom at `proxy_thread_kill_lock`, at `proxy_terminator_lock` and in the joins of the
alive threads. The terminator keeps its lock while it kills, and an alive thread takes that lock once
before it ends.
-/

namespace Gonggo

namespace KillPc

/-- The alive thread that the call is still to join. -/
def toJoin : KillPc → Option Nat
  | .joining _ found | .removing .subscribe found | .removing .channel found => found .alive
  | _ => none

end KillPc

namespace ProxyLifecycle

variable {s : ProxyLifecycle}

/-- The terminator has an event in hand, and its lock until the call of `proxy_thread_kill` for it
has returned. -/
def handling (s : ProxyLifecycle) : Bool :=
  match s.terminator with
  | .unsenting _ _ => true
  | .killing _ _ => (s.kills .terminator).isSome
  | _ => false

/-- The first thread waits for a lock that the second one owns, or for the end of the second one. -/
inductive WaitsFor (s : ProxyLifecycle) : LifecycleThread → LifecycleThread → Prop
  | killLock {x y : Killer} {call : KillCall} :
      s.kills x = some call → call.pc = .locking → s.killLock = some y → WaitsFor s (.killer x) (.killer y)
  | terminatorLock {k : Nat} {t : LifecycleThread} :
      s.alive k = .awaking → s.terminatorLock = some t → WaitsFor s (.alive k) t
  | relock {t : LifecycleThread} :
      s.terminator = .starting ∨ s.terminator = .waiting → s.terminatorLock = some t →
        WaitsFor s (.killer .terminator) t
  | join {x : Killer} {call : KillCall} {found : Found} {k : Nat} :
      s.kills x = some call → call.pc = .joining .alive found → found .alive = some k →
        (s.alive k).ended = false → WaitsFor s (.killer x) (.alive k)
  | activation {k : Nat} {last : ThreadKind} {ending : Bool} :
      s.activator = .joining .alive k last ending → (s.alive k).ended = false →
        WaitsFor s (.killer .activator) (.alive k)

/-! ## Who owns the locks -/

structure Locked (s : ProxyLifecycle) : Prop where
  killLock : ∀ x, s.killLock = some x → ∃ call, s.kills x = some call ∧ call.pc.inside = true
  terminatorLock : ∀ t, s.terminatorLock = some t →
    t = .killer .terminator ∧ s.terminator ≠ .starting ∧ s.terminator ≠ .waiting

namespace Locked

theorem started : ProxyLifecycle.started.Locked where
  killLock _ h := nomatch h
  terminatorLock _ h := nomatch h

theorem killEffect_killLock (h : s.Locked) {x y : Killer} {call : KillCall}
    (hy : (s.killEffect x call).killLock = some y) :
    ∃ call', (s.killEffect x call).kills y = some call' ∧ call'.pc.inside = true := by
  by_cases hOwn : y = x
  · subst hOwn
    unfold killEffect at hy ⊢
    cases hPc : call.pc with
    | locking => exact ⟨_, kills_setKill_self .., rfl⟩
    | getting kind found => exact ⟨_, kills_setKill_self .., KillPc.inside_afterGetting ..⟩
    | joining kind found =>
      refine ⟨_, kills_setKill_self .., ?_⟩
      cases (found kind).isSome
      · exact KillPc.inside_afterJoining ..
      · rfl
    | removing kind found => exact ⟨_, kills_setKill_self .., KillPc.inside_afterJoining ..⟩
    | unlocking =>
      rw [hPc] at hy
      cases hy
  · rw [kills_killEffect_ne s call hOwn]
    apply h.killLock
    unfold killEffect at hy
    cases hPc : call.pc with
    | locking =>
      rw [hPc] at hy
      exact absurd (Option.some.inj hy).symm hOwn
    | unlocking =>
      rw [hPc] at hy
      cases hy
    | _ =>
      rw [hPc] at hy
      exact hy

theorem terminatorEffect_terminatorLock (h : s.Locked) {t : LifecycleThread}
    (ht : s.terminatorEffect.terminatorLock = some t) :
    t = .killer .terminator ∧ s.terminatorEffect.terminator ≠ .starting ∧
      s.terminatorEffect.terminator ≠ .waiting := by
  unfold terminatorEffect at ht ⊢
  cases hPc : s.terminator with
  | starting =>
    rw [hPc] at ht
    exact absurd hPc (h.terminatorLock t ht).2.1
  | waiting =>
    rw [hPc] at ht
    exact ⟨(Option.some.inj ht).symm, nofun, nofun⟩
  | draining =>
    cases hQueue : s.queue with
    | nil =>
      rw [hPc, hQueue] at ht
      cases ht
    | cons entry rest =>
      rw [hPc, hQueue] at ht
      exact ⟨(h.terminatorLock t ht).1, nofun, nofun⟩
  | unsenting | killing =>
    rw [hPc] at ht
    exact ⟨(h.terminatorLock t ht).1, nofun, nofun⟩

theorem effect (h : s.Locked) (hCalling : s.Calling) (e : LifecycleEvent) (hGuard : e.guard s) :
    (e.effect s).Locked where
  killLock x hx := by
    by_cases hKill : ∃ y, e = .kill y
    · obtain ⟨y, rfl⟩ := hKill
      obtain ⟨call, hCall, -⟩ := exists_of_guard_kill hGuard
      rw [effect_kill hCall] at hx ⊢
      exact h.killEffect_killLock hx
    · have hNot : ∀ y, e ≠ .kill y := fun y hEq => hKill ⟨y, hEq⟩
      rw [killLock_effect hNot] at hx
      obtain ⟨call, hCall, hInside⟩ := h.killLock x hx
      refine ⟨call, ?_, hInside⟩
      rw [kills_effect_of_ne ?_ (hNot x)]
      · exact hCall
      · -- a thread that takes a step of its own is in no call
        intro hKiller
        rw [hCalling.outside hGuard hKiller] at hCall
        cases hCall
  terminatorLock t ht := by
    by_cases hTerminator : e = .terminator
    · subst hTerminator
      exact h.terminatorEffect_terminatorLock ht
    · have hSame : _ ∧ _ ∧ (e.effect s).handled = s.handled := terminator_effect hTerminator
      rw [hSame.2.1] at ht
      rw [hSame.1]
      exact h.terminatorLock t ht

theorem of_reachable {cond : ProxyLifecycle → LifecycleEvent → Prop}
    (h : proxyLifecycleSystem.ReachableWhen cond s) : s.Locked := by
  have hBoth : s.Locked ∧ s.Calling := by
    refine h.invariant (fun s => s.Locked ∧ s.Calling) ?_ ?_
    · rintro s rfl
      exact ⟨started, nofun⟩
    · exact fun s e ⟨hLocked, hCalling⟩ hGuard _ =>
        ⟨hLocked.effect hCalling e hGuard, hCalling.effect e hGuard⟩
  exact hBoth.1

end Locked

/-! ## The alive threads that are joined -/

/-- The alive thread that the call is about to find. -/
def picked (s : ProxyLifecycle) (call : KillCall) : Option Nat :=
  match call.pc with
  | .getting .alive _ => (s.tables .alive).lookup call.proxyName
  | _ => none

/-- A call still joins the alive threads that it was to join, and the one that it has just found. -/
theorem toJoin_killEffect {x : Killer} {call call' : KillCall} {k : Nat}
    (h : (s.killEffect x call).kills x = some call') (hk : call'.pc.toJoin = some k) :
    call.pc.toJoin = some k ∨ s.picked call = some k := by
  unfold killEffect at h
  cases hPc : call.pc with
  | locking | unlocking =>
    simp only [hPc, kills_setKill_self] at h
    cases h
    try cases hk
  | getting kind found =>
    simp only [hPc, kills_setKill_self, Option.some.injEq] at h
    subst h
    cases kind with
    | subscribe | channel => cases hk
    | alive =>
      refine .inr ?_
      simp only [picked, hPc]
      exact hk
  | joining kind found =>
    simp only [hPc, kills_setKill_self, Option.some.injEq] at h
    subst h
    refine .inl ?_
    cases hFound : found kind with
    | none =>
      simp only [hFound] at hk
      cases kind with
      | subscribe | channel => exact hk
      | alive => cases hk
    | some j =>
      simp only [hFound] at hk
      cases kind with
      | subscribe | channel => exact hk
      | alive => cases hk
  | removing kind found =>
    simp only [hPc, kills_setKill_self, Option.some.injEq] at h
    subst h
    refine .inl ?_
    cases kind with
    | subscribe | channel => exact hk
    | alive => cases hk

/-- The alive threads in the tables and in the hands of the killers are made. -/
structure Made (s : ProxyLifecycle) : Prop where
  tables : ∀ kind proxyName k, (s.tables kind).lookup proxyName = some k →
    s.activator.creating ≠ some k
  toJoin : ∀ x call k, s.kills x = some call → call.pc.toJoin = some k →
    k < s.count ∧ s.activator.creating ≠ some k

theorem creating_effect_ne {e : LifecycleEvent} {k : Nat} (hk : k < s.count)
    (h : s.activator.creating ≠ some k) : (e.effect s).activator.creating ≠ some k := by
  intro hCreating
  rcases creating_effect hCreating with hOld | rfl
  · exact h hOld
  · exact Nat.lt_irrefl _ hk

namespace Made

theorem started : ProxyLifecycle.started.Made where
  tables _ _ _ _ := nofun
  toJoin _ _ _ h := nomatch h

theorem picked (h : s.Made) (hNumbered : s.Numbered) {call : KillCall} {k : Nat}
    (hk : s.picked call = some k) : k < s.count ∧ s.activator.creating ≠ some k := by
  unfold ProxyLifecycle.picked at hk
  split at hk
  · exact ⟨(hNumbered.tables _ _ k hk).1, h.tables _ _ k hk⟩
  · cases hk

theorem effect (h : s.Made) (hNumbered : s.Numbered) (e : LifecycleEvent)
    (hGuard : e.guard s) : (e.effect s).Made where
  tables kind proxyName k hk := by
    rcases lookup_effect hk with hOld | ⟨-, hSetting, -⟩
    · exact creating_effect_ne (hNumbered.tables kind proxyName k hOld).1 (h.tables kind proxyName k hOld)
    · exact creating_effect_ne (hNumbered.number k (by rw [hSetting]; rfl)) (by rw [hSetting]; nofun)
  toJoin x call k hCall hk := by
    have hMade : k < s.count ∧ s.activator.creating ≠ some k := by
      rcases kills_effect hGuard hCall with hOld | ⟨hPc, -⟩ | ⟨old, -, hOld, hEffect, -⟩
      · exact h.toJoin x call k hOld hk
      · rw [hPc] at hk
        cases hk
      · rw [hEffect] at hCall
        rcases toJoin_killEffect hCall hk with hWas | hPicked
        · exact h.toJoin x old k hOld hWas
        · exact h.picked hNumbered hPicked
    exact ⟨Nat.lt_of_lt_of_le hMade.1 (s.count_le_effect e), creating_effect_ne hMade.1 hMade.2⟩

end Made

theorem reported_effect {e : LifecycleEvent} {k : Nat} (hMade : s.activator.creating ≠ some k)
    (h : (s.alive k).reported = true) : ((e.effect s).alive k).reported = true := by
  rcases s.alive_effect e k with hSame | hCreating | rfl
  · rw [hSame]
    exact h
  · exact absurd hCreating hMade
  · simp only [LifecycleEvent.effect, aliveEffect]
    cases hPc : s.alive k with
    | absent | waiting | terminatingSetting | awaking =>
      rw [hPc] at h
      cases h
    | notifying => simp [setAlive, AlivePc.reported]
    | finished =>
      rw [hPc]
      rfl

/-- While the terminator has an event in hand, a call finds or is to join an alive thread that has not
reported the death of its proxy. -/
def PicksUnreported (s : ProxyLifecycle) : LifecycleEvent → Prop
  | .kill x => s.handling = true ∧ ∃ k ∈ (s.kills x).bind s.picked, (s.alive k).reported = false
  | .terminator =>
      s.terminator = .draining ∧ s.queue ≠ [] ∧
        ∃ x, ∃ k ∈ (s.kills x).bind fun call => call.pc.toJoin, (s.alive k).reported = false
  | _ => False

instance (s : ProxyLifecycle) (e : LifecycleEvent) : Decidable (s.PicksUnreported e) :=
  match e with
  | .kill _ => inferInstanceAs (Decidable (_ ∧ _))
  | .terminator => inferInstanceAs (Decidable (_ ∧ _ ∧ _))
  | .request _ | .activator _ | .respond _ | .killAll _ | .main | .alive _ | .exit _ _ =>
      inferInstanceAs (Decidable False)

/-- While the terminator has an event in hand, nobody joins an alive thread that is still to report. -/
def Reported (s : ProxyLifecycle) : Prop :=
  s.handling = true → ∀ x call k, s.kills x = some call → call.pc.toJoin = some k →
    (s.alive k).reported = true

theorem handling_effect {e : LifecycleEvent} (hGuard : e.guard s) (h : (e.effect s).handling = true) :
    s.handling = true ∨ e = .terminator ∧ s.terminator = .draining ∧ s.queue ≠ [] := by
  by_cases hTerminator : e = .terminator
  · subst hTerminator
    simp only [LifecycleEvent.effect, terminatorEffect] at h
    cases hPc : s.terminator with
    | starting | waiting | killing =>
      rw [hPc] at h
      cases h
    | unsenting => exact .inl (by rw [handling, hPc])
    | draining =>
      cases hQueue : s.queue with
      | nil =>
        rw [hPc, hQueue] at h
        cases h
      | cons => exact .inr ⟨rfl, rfl, List.cons_ne_nil _ _⟩
  · refine .inl ?_
    have hSame : (e.effect s).terminator = s.terminator := (terminator_effect hTerminator).1
    simp only [handling, hSame] at h ⊢
    cases hPc : s.terminator with
    | killing proxyName k =>
      simp only [hPc] at h ⊢
      by_cases hKill : e = .kill .terminator
      · subst hKill
        obtain ⟨call, hCall, -⟩ := exists_of_guard_kill hGuard
        rw [hCall]
        rfl
      · have hNot : e.killer ≠ some .terminator := fun hEq => hTerminator (LifecycleEvent.killer_eq_terminator hEq)
        rwa [kills_effect_of_ne hNot hKill] at h
    | _ => simp [hPc] at h ⊢

theorem Reported.effect (h : s.Reported) (hMade : s.Made) (hNumbered : s.Numbered) (e : LifecycleEvent) (hGuard : e.guard s) (hPicks : ¬ s.PicksUnreported e) :
    (e.effect s).Reported := by
  intro hHandling x call k hCall hk
  rcases kills_effect hGuard hCall with hOld | ⟨hPc, -⟩ | ⟨old, rfl, hOld, hEffect, -⟩
  · refine reported_effect (hMade.toJoin x call k hOld hk).2 ?_
    rcases handling_effect hGuard hHandling with hWas | ⟨rfl, hDraining, hQueue⟩
    · exact h hWas x call k hOld hk
    · by_contra hNot
      exact hPicks ⟨hDraining, hQueue, x, k, by simpa [hOld] using hk, Bool.of_not_eq_true hNot⟩
  · rw [hPc] at hk
    cases hk
  · have hWas : s.handling = true := by
      rcases handling_effect hGuard hHandling with hWas | ⟨hEq, -⟩
      · exact hWas
      · cases hEq
    rw [hEffect] at hCall
    rcases toJoin_killEffect hCall hk with hJoin | hPicked
    · exact reported_effect (hMade.toJoin x old k hOld hJoin).2 (h hWas x old k hOld hJoin)
    · refine reported_effect (hMade.picked hNumbered hPicked).2 ?_
      by_contra hNot
      exact hPicks ⟨hWas, k, by simpa [hOld] using hPicked, Bool.of_not_eq_true hNot⟩

/-! ## The order of the threads -/

/-- A thread waits only for threads of lower rank: while the terminator has an event in hand, the alive
threads that are still to report stand above everybody in a call. -/
def rank (s : ProxyLifecycle) : LifecycleThread → Nat
  | .killer x =>
      match s.kills x with
      | some call => (if call.pc.inside then 1 else 2) + if s.handling then 0 else 1
      | none => if x = .terminator then 0 else 4
  | .alive k => if s.handling then if (s.alive k).reported then 0 else 3 else 1

theorem rank_of_call {x : Killer} {call : KillCall} (h : s.kills x = some call) :
    s.rank (.killer x) = (if call.pc.inside then 1 else 2) + if s.handling then 0 else 1 := by
  simp only [rank, h]

theorem rank_alive_lt (s : ProxyLifecycle) (k : Nat) : s.rank (.alive k) < 4 := by
  rw [rank]
  split_ifs <;> decide

/-- The terminator in a call has an event in hand. -/
theorem handling_of_call (hCalling : s.Calling) {call : KillCall} (h : s.kills .terminator = some call) :
    s.handling = true := by
  obtain ⟨k, hKilling⟩ := hCalling .terminator call h
  rw [handling, hKilling, h]
  rfl

theorem rank_terminator_lt (hCalling : s.Calling) {k : Nat} (h : s.alive k = .awaking) :
    s.rank (.killer .terminator) < s.rank (.alive k) := by
  have hStill : (s.alive k).reported = false := by
    rw [h]
    rfl
  cases hCall : s.kills .terminator with
  | none =>
    have hBottom : s.rank (.killer .terminator) = 0 := by
      simp [rank, hCall]
    rw [hBottom]
    cases hHandling : s.handling <;> simp [rank, hHandling, hStill]
  | some call =>
    have hHandling := handling_of_call hCalling hCall
    rw [rank_of_call hCall]
    cases hInside : call.pc.inside <;> simp [rank, hHandling, hStill]

theorem rank_lt_of_waitsFor (hLocked : s.Locked) (hCalling : s.Calling) (hReported : s.Reported)
    (t u : LifecycleThread) (h : s.WaitsFor t u) : s.rank u < s.rank t := by
  cases h with
  | killLock hCall hPc hOwner =>
    obtain ⟨owning, hOwning, hInside⟩ := hLocked.killLock _ hOwner
    rw [rank_of_call hCall, rank_of_call hOwning, hInside, hPc]
    exact Nat.add_lt_add_right Nat.one_lt_two _
  | terminatorLock hAwaking hOwner =>
    obtain ⟨rfl, -⟩ := hLocked.terminatorLock _ hOwner
    exact rank_terminator_lt hCalling hAwaking
  | relock hPc hOwner =>
    obtain ⟨-, hNotStarting, hNotWaiting⟩ := hLocked.terminatorLock _ hOwner
    exact absurd hPc (not_or.mpr ⟨hNotStarting, hNotWaiting⟩)
  | @join x call found k hCall hPc hFound hRuns =>
    rw [rank_of_call hCall, hPc]
    cases hHandling : s.handling with
    | true =>
      have hDone := hReported hHandling x call k hCall (by rw [hPc]; exact hFound)
      simp [rank, hHandling, hDone, KillPc.inside]
    | false => simp [rank, hHandling, KillPc.inside]
  | activation hJoining hRuns =>
    have hOutside : s.kills .activator = none := by
      cases hCall : s.kills .activator with
      | none => rfl
      | some call =>
        have hKilling : s.activator = .killing call.proxyName := hCalling .activator call hCall
        rw [hJoining] at hKilling
        cases hKilling
    have hRank : s.rank (.killer .activator) = 4 := by
      simp [rank, hOutside]
    rw [hRank]
    exact s.rank_alive_lt _

/-- What holds between the steps of a run in which no unreported alive thread is picked. -/
structure Ordered (s : ProxyLifecycle) : Prop where
  numbered : s.Numbered
  calling : s.Calling
  locked : s.Locked
  made : s.Made
  reported : s.Reported

theorem Ordered.started : ProxyLifecycle.started.Ordered where
  numbered := .started
  calling := nofun
  locked := .started
  made := .started
  reported _ _ _ _ h := nomatch h

theorem Ordered.effect (h : s.Ordered) (e : LifecycleEvent) (hGuard : e.guard s)
    (hPicks : ¬ s.PicksUnreported e) : (e.effect s).Ordered where
  numbered := h.numbered.effect e hGuard
  calling := h.calling.effect e hGuard
  locked := h.locked.effect h.calling e hGuard
  made := h.made.effect h.numbered e hGuard
  reported := h.reported.effect h.made h.numbered e hGuard hPicks

/-- Killing proxies deadlocks in no run in which, while the terminator has an event in hand, nobody picks
an alive thread that is still to report. -/
theorem not_deadlock_of_reported
    (h : proxyLifecycleSystem.ReachableWhen (fun s e => ¬ s.PicksUnreported e) s) :
    ¬ Deadlock s.WaitsFor := by
  have hOrdered : s.Ordered := by
    apply h.invariant
    · rintro s rfl
      exact Ordered.started
    · exact fun s e hOrdered hGuard hPicks => hOrdered.effect e hGuard hPicks
  exact not_deadlock_of_rank s.rank
    (rank_lt_of_waitsFor hOrdered.locked hOrdered.calling hOrdered.reported)

theorem not_deadlock_of_reported_quietDeathRun :
    ¬ Deadlock (proxyLifecycleSystem.run .started quietDeathRun).WaitsFor := by
  apply not_deadlock_of_reported
  apply TransitionSystem.ReachableWhen.run (.init rfl)
  decide

/-- At shutdown the main thread joins the alive thread of one proxy, which wants to report, while the
terminator handles the death of another proxy and wants to kill. -/
def deathAtShutdown : List LifecycleEvent :=
  List.flatten [[.terminator], activationRun "p", activationRun "q", deathRun 0,
    [.alive 0, .terminator, .terminator, .killAll .inOrder, .main], List.replicate 4 (.kill .main),
    [.exit .subscribe 1, .kill .main, .kill .main, .exit .channel 1, .kill .main, .kill .main],
    deathRun 1, [.terminator]]

set_option maxRecDepth 2000 in
theorem deadlock_at_shutdown : ¬ ∀ s, proxyLifecycleSystem.Reachable s → ¬ Deadlock s.WaitsFor := by
  intro h
  have hReach : proxyLifecycleSystem.Reachable (proxyLifecycleSystem.run .started deathAtShutdown) :=
    .run (.init rfl) deathAtShutdown (by decide)
  have hKillLock : WaitsFor (proxyLifecycleSystem.run .started deathAtShutdown)
      (.killer .terminator) (.killer .main) := .killLock rfl rfl rfl
  have hJoin : WaitsFor (proxyLifecycleSystem.run .started deathAtShutdown)
      (.killer .main) (.alive 1) := .join rfl rfl rfl rfl
  have hTerminatorLock : WaitsFor (proxyLifecycleSystem.run .started deathAtShutdown)
      (.alive 1) (.killer .terminator) := .terminatorLock rfl rfl
  exact h _ hReach ⟨.killer .terminator, .tail (.tail (.single hKillLock) hJoin) hTerminatorLock⟩

end ProxyLifecycle

end Gonggo
