import Gonggo.ThreadLedgerInvariants

/-! # Threads at shutdown

The shutdown of work.c from `proxy_thread_kill_all` to the first table that `clean_up` destroys, with
the activator and the terminator at work until `threads_stop` has joined them. `proxy_thread_kill_all`
goes through the names that it found in the table of the alive threads when it was called.
-/

namespace Gonggo

/-- The main thread: up to the return of `proxy_thread_kill_all`, and then at the steps of
`threads_stop`. -/
inductive StopPc
  | killingAll
  | activatorStopped
  | terminatorStopped
  | activatorJoined
  | cleaning
  deriving DecidableEq, Repr

namespace StopPc

/-- `proxy_activator_end` is set. -/
def activatorEnd : StopPc → Bool
  | .killingAll => false
  | _ => true

/-- `proxy_terminator_end` is set. -/
def terminatorEnd : StopPc → Bool
  | .killingAll | .activatorStopped => false
  | _ => true

/-- The activator has been joined. -/
def activatorOver : StopPc → Bool
  | .activatorJoined | .cleaning => true
  | _ => false

end StopPc

structure Shutdown where
  ledger : ThreadLedger
  pc : StopPc
  terminatorEnded : Bool

/-- `stop` is the next step of `threads_stop`. -/
inductive ShutdownEvent
  | thread (e : LifecycleEvent)
  | stop

/-- The activator holds the lock of its segment except where it waits. -/
def ActivatorPc.waits : ActivatorPc → Bool
  | .idle | .dying | .responding _ _ _ | .ended => true
  | _ => false

namespace Shutdown

def started : Shutdown where
  ledger := .started
  pc := .killingAll
  terminatorEnded := false

variable (s : Shutdown)

/-- With its flag set an activator that waits for a request ends. -/
def activatorEnded : Bool :=
  match s.ledger.core.activator with
  | .ended => true
  | .idle => s.pc.activatorEnd
  | _ => false

/-- Once the flags are set the activator takes no request and the terminator ends when it has drained
its queue; before that a wait for an answer is not told to end. -/
def admits : LifecycleEvent → Bool
  | .request _ => !s.pc.activatorEnd
  | .respond outcome => decide (outcome = .terminated → s.pc.activatorEnd = true)
  | .terminator => !s.terminatorEnded
  | _ => true

def stopEnabled : Bool :=
  match s.pc with
  | .killingAll => decide (s.ledger.core.main = .finished) && s.ledger.core.activator.waits
  | .activatorStopped => s.ledger.core.terminatorLock.isNone
  | .terminatorStopped => s.activatorEnded
  | .activatorJoined => s.terminatorEnded
  | .cleaning => false

def stop : Shutdown :=
  { s with
    pc :=
      match s.pc with
      | .killingAll => .activatorStopped
      | .activatorStopped => .terminatorStopped
      | .terminatorStopped => .activatorJoined
      | .activatorJoined | .cleaning => .cleaning }

/-- The terminator tests its flag on the way to its wait. -/
def thread (e : LifecycleEvent) : Shutdown where
  ledger := s.ledger.effect e
  pc := s.pc
  terminatorEnded :=
    match e with
    | .terminator =>
        s.pc.terminatorEnd && decide ((s.ledger.effect e).core.terminator = .waiting)
    | _ => s.terminatorEnded

end Shutdown

namespace ShutdownEvent

def guard (s : Shutdown) : ShutdownEvent → Prop
  | .thread e => s.ledger.guard e ∧ s.admits e = true
  | .stop => s.stopEnabled = true

instance (s : Shutdown) (e : ShutdownEvent) : Decidable (e.guard s) :=
  match e with
  | .thread e => inferInstanceAs (Decidable (threadLedgerSystem.guard s.ledger e ∧ _))
  | .stop => inferInstanceAs (Decidable (_ = true))

def effect (s : Shutdown) : ShutdownEvent → Shutdown
  | .thread e => s.thread e
  | .stop => s.stop

end ShutdownEvent

def shutdownSystem : TransitionSystem Shutdown ShutdownEvent where
  init s := s = .started
  guard := ShutdownEvent.guard
  effect := ShutdownEvent.effect

instance (s : Shutdown) (e : ShutdownEvent) : Decidable (shutdownSystem.guard s e) :=
  inferInstanceAs (Decidable (e.guard s))

instance : Fintype ThreadKind where
  elems := {.subscribe, .channel, .alive}
  complete kind := by cases kind <;> decide

instance (pc : KillPc) (kind : ThreadKind) (k : Nat) : Decidable (pc.Catches kind k) :=
  inferInstanceAs (Decidable (_ ∨ _))

namespace ProxyLifecycle

variable {s : ProxyLifecycle}

/-! ## The threads that nobody would find -/

/-- `proxy_thread_kill_all` is still to look the name up in the table of the alive threads. -/
def StillToKill (s : ProxyLifecycle) (proxyName : ProxyName) : Prop :=
  match s.main with
  | .ready => True
  | .setting names => proxyName ∈ names
  | .killing name rest =>
      proxyName ∈ rest ∨ name = proxyName ∧ ∃ call ∈ s.kills .main, call.pc.before .alive = true
  | .finished => False

instance (s : ProxyLifecycle) (proxyName : ProxyName) : Decidable (s.StillToKill proxyName) := by
  unfold StillToKill
  split <;> infer_instance

/-- A call that is still to find the alive thread has looked for another thread of the activation
before it was registered. -/
def Missed (s : ProxyLifecycle) (k : Nat) : Prop :=
  ∃ x, ∃ call ∈ s.kills x, call.proxyName = s.proxyName k ∧ call.pc.before .alive = true ∧
    ∃ kind, (s.tables kind).lookup (s.proxyName k) = some k ∧ ¬ call.pc.Catches kind k

instance (s : ProxyLifecycle) (k : Nat) : Decidable (s.Missed k) :=
  inferInstanceAs (Decidable (∃ _, _))

/-- The alive thread of an activation is registered too late for `proxy_thread_kill_all`, or with a
call that has missed another of its threads. -/
def LeavesBehind (s : ProxyLifecycle) : LifecycleEvent → Prop
  | .activator _ =>
      match s.activator with
      | .setting .alive k => ¬ s.StillToKill (s.proxyName k) ∨ s.Missed k
      | _ => False
  | _ => False

/-- The incarnation whose alive thread the activator enters at the step. -/
def enteringAlive (s : ProxyLifecycle) : LifecycleEvent → Option Nat
  | .activator _ =>
      match s.activator with
      | .setting .alive k => some k
      | _ => none
  | _ => none

theorem leavesBehind_iff (e : LifecycleEvent) :
    s.LeavesBehind e ↔ ∃ k ∈ s.enteringAlive e, ¬ s.StillToKill (s.proxyName k) ∨ s.Missed k := by
  unfold LeavesBehind enteringAlive
  split
  · split <;> simp
  · simp

instance decidableLeavesBehind (s : ProxyLifecycle) (e : LifecycleEvent) :
    Decidable (s.LeavesBehind e) :=
  decidable_of_iff (∃ k ∈ s.enteringAlive e, ¬ s.StillToKill (s.proxyName k) ∨ s.Missed k)
    (s.leavesBehind_iff e).symm

/-- `proxy_thread_kill_all` is still to kill the name, or has the alive thread in hand. -/
def Listed (s : ProxyLifecycle) (proxyName : ProxyName) (k : Nat) : Prop :=
  match s.main with
  | .ready => True
  | .setting names => proxyName ∈ names
  | .killing name rest =>
      proxyName ∈ rest ∨ name = proxyName ∧ ∃ call ∈ s.kills .main, call.pc.Catches .alive k
  | .finished => False

/-- A proxy with a registered thread has a registered alive thread, and whoever removes that one
removes the others first. -/
structure Traceable (s : ProxyLifecycle) : Prop where
  whole : ∀ kind proxyName k, (s.tables kind).lookup proxyName = some k →
    (s.tables .alive).lookup proxyName = some k ∨ ∃ next, s.activator = .setting next k
  caught : ∀ x call kind k, s.kills x = some call →
    (s.tables .alive).lookup call.proxyName = some k → call.pc.Catches .alive k →
    (s.tables kind).lookup call.proxyName = some k → call.pc.Catches kind k
  listed : ∀ proxyName k, (s.tables .alive).lookup proxyName = some k → s.Listed proxyName k

namespace Traceable

theorem started : ProxyLifecycle.started.Traceable where
  whole kind proxyName k h := by
    have hNone : (HashTable.empty : HashTable ProxyName Nat).lookup proxyName = some k := h
    rw [HashTable.lookup_empty] at hNone
    cases hNone
  caught _ _ _ _ h := nomatch h
  listed _ _ _ := trivial

/-- An alive thread leaves the table only when no other thread of its activation is registered. -/
theorem whole_effect_of_alive (h : s.Traceable) (hCore : s.Consistent)
    (hRemoving : ∀ x proxyName kind found, s.kills x = some ⟨proxyName, .removing kind found⟩ →
      ∃ k, found kind = some k)
    {e : LifecycleEvent} {kind : ThreadKind} {proxyName : ProxyName} {k : Nat}
    (hEntry : ((e.effect s).tables kind).lookup proxyName = some k)
    (hOld : (s.tables kind).lookup proxyName = some k)
    (hAlive : (s.tables .alive).lookup proxyName = some k) :
    ((e.effect s).tables .alive).lookup proxyName = some k := by
  rcases lookup_effect_or (e := e) hAlive with
    hStays | ⟨x, ⟨name, pc⟩, found, -, hCall, rfl, rfl⟩ | ⟨ok, j, -, hSetting, hName⟩
  · exact hStays
  · obtain ⟨j, hFound⟩ := hRemoving x _ .alive found hCall
    have hHolds := (KillPc.holds_removing_self .alive found).trans hFound
    obtain rfl : j = k :=
      Option.some.inj ((hCore.inTurn.held x _ .alive j hCall hHolds).symm.trans hAlive)
    rcases h.caught x _ kind j hCall hAlive (.inr hHolds) hOld with hBefore | hKind
    · cases hBefore
    · cases kind with
      | subscribe | channel => cases hKind
      | alive => exact hEntry
  · rw [← hName, hCore.inTurn.vacant_setting hSetting (Nat.le_refl _)] at hAlive
    cases hAlive

theorem whole_effect (h : s.Traceable) (hCore : s.Consistent)
    (hRemoving : ∀ x proxyName kind found, s.kills x = some ⟨proxyName, .removing kind found⟩ →
      ∃ k, found kind = some k)
    {e : LifecycleEvent} (hGuard : e.guard s) {kind : ThreadKind} {proxyName : ProxyName} {k : Nat}
    (hEntry : ((e.effect s).tables kind).lookup proxyName = some k) :
    ((e.effect s).tables .alive).lookup proxyName = some k ∨
      ∃ next, (e.effect s).activator = .setting next k := by
  have hSet : ∀ next ok, s.activator = .setting next k → e = .activator ok →
      s.proxyName k = proxyName →
      ((e.effect s).tables .alive).lookup proxyName = some k ∨
        ∃ next, (e.effect s).activator = .setting next k := by
    rintro next ok hPc rfl rfl
    simp only [LifecycleEvent.effect, activatorEffect, hPc]
    cases next with
    | subscribe | channel => exact .inr ⟨_, rfl⟩
    | alive =>
      refine .inl ?_
      rw [tables_tableSet_self]
      exact HashTable.lookup_insert_self ..
  rcases lookup_effect hEntry with hOld | ⟨⟨ok, hEq⟩, hSetting, hName⟩
  · rcases h.whole kind proxyName k hOld with hAlive | ⟨next, hPc⟩
    · exact .inl (h.whole_effect_of_alive hCore hRemoving hEntry hOld hAlive)
    · by_cases hKiller : e.killer = some .activator
      · cases e with
        | activator ok => exact hSet next ok hPc rfl (hCore.numbered.tables kind proxyName k hOld).2
        | request =>
          rw [(of_decide_eq_true hGuard).1] at hPc
          cases hPc
        | respond outcome =>
          have hWaiting := (Bool.and_eq_true_iff.mp hGuard).1
          simp [respondEnabled, hPc] at hWaiting
        | kill | terminator | killAll | main | alive | exit => cases hKiller
      · exact .inr ⟨next, (activator_effect hKiller).trans hPc⟩
  · exact hSet kind ok hSetting hEq hName.symm

theorem caught_effect (h : s.Traceable) (hCore : s.Consistent) {e : LifecycleEvent}
    (hGuard : e.guard s) (hLeaves : ¬ s.LeavesBehind e) {x : Killer} {call : KillCall}
    {kind : ThreadKind} {k : Nat} (hCall : (e.effect s).kills x = some call)
    (hAlive : ((e.effect s).tables .alive).lookup call.proxyName = some k)
    (hCatches : call.pc.Catches .alive k)
    (hEntry : ((e.effect s).tables kind).lookup call.proxyName = some k) :
    call.pc.Catches kind k := by
  by_cases hKill : e = .kill x
  · subst hKill
    obtain ⟨old, hOld, -⟩ := exists_of_guard_kill hGuard
    rw [effect_kill hOld] at hCall hAlive hEntry
    have hName := proxyName_killEffect hCall
    rw [hName] at hAlive hEntry
    have hWas : old.pc.Catches .alive k := by
      rcases hCatches with hBefore | hHolds
      · exact .inl (before_killEffect hCall hBefore)
      · rcases (holds_killEffect hCall hHolds).1 with hHeld | ⟨hBefore, -⟩
        · exact .inr hHeld
        · exact .inl hBefore
    obtain ⟨call', hCall', hStill⟩ := catches_killEffect
      (h.caught x old kind k hOld (lookup_killEffect hAlive) hWas (lookup_killEffect hEntry)) hEntry
    rw [hCall] at hCall'
    cases hCall'
    exact hStill
  · rcases kills_effect hGuard hCall with hOld | ⟨hPc, -⟩ | ⟨old, hEq, -⟩
    · rcases lookup_effect hAlive with hAliveOld | ⟨⟨ok, rfl⟩, hSetting, hName⟩
      · rcases lookup_effect hEntry with hEntryOld | ⟨-, hSetting, hName⟩
        · exact h.caught x call kind k hOld hAliveOld hCatches hEntryOld
        · -- the alive thread is the last to be set
          have hLe : kind.index ≤ ThreadKind.alive.index := by cases kind <;> decide
          rw [hName, hCore.inTurn.vacant_setting hSetting hLe] at hAliveOld
          cases hAliveOld
      · rcases lookup_effect hEntry with hEntryOld | ⟨-, hOther, -⟩
        · by_contra hMissed
          have hBefore : call.pc.before .alive = true := by
            refine hCatches.resolve_right fun hHolds => ?_
            have hHeld := hCore.inTurn.held x call .alive k hOld hHolds
            rw [hName, hCore.inTurn.vacant_setting hSetting (Nat.le_refl _)] at hHeld
            cases hHeld
          refine hLeaves ?_
          simp only [LeavesBehind, hSetting]
          exact .inr ⟨x, call, hOld, hName, hBefore, kind, hName ▸ hEntryOld, hMissed⟩
        · rw [hSetting] at hOther
          cases hOther
          exact hCatches
    · refine .inl ?_
      rw [hPc]
      rfl
    · exact absurd hEq hKill

theorem listed_of_registered (hCalling : s.Calling) {e : LifecycleEvent} (hGuard : e.guard s)
    {proxyName : ProxyName} {k : Nat} (h : s.Listed proxyName k)
    (hOld : (s.tables .alive).lookup proxyName = some k)
    (hEntry : ((e.effect s).tables .alive).lookup proxyName = some k) :
    (e.effect s).Listed proxyName k := by
  unfold Listed at h ⊢
  by_cases hKiller : e.killer = some .main
  · cases e with
    | killAll order =>
      refine (order.mem_visit_iff _ _).mpr ((HashTable.mem_keys_iff ..).mpr ⟨k, hOld⟩)
    | main =>
      have hEnabled : s.mainEnabled = true := hGuard
      simp only [LifecycleEvent.effect, mainEffect]
      cases hPc : s.main with
      | ready | finished => simp [mainEnabled, hPc] at hEnabled
      | setting names =>
        rw [hPc] at h
        cases names with
        | nil => cases h
        | cons name rest =>
          rcases List.mem_cons.mp h with rfl | hRest
          · exact .inr ⟨rfl, _, kills_setKill_self .., .inl rfl⟩
          · exact .inl hRest
      | killing name rest =>
        rw [hPc] at h
        rcases h with hRest | ⟨-, call, hCall, -⟩
        · exact hRest
        · simp only [mainEnabled, hPc] at hEnabled
          rw [Option.isNone_iff_eq_none.mp hEnabled] at hCall
          cases hCall
    | request | activator | respond | kill | terminator | alive | exit => cases hKiller
  · rw [main_effect hKiller]
    cases hPc : s.main with
    | killing name rest =>
      rw [hPc] at h
      refine h.imp_right fun hNow => ?_
      obtain ⟨rfl, call, hCall, hCatches⟩ := hNow
      refine ⟨rfl, ?_⟩
      by_cases hKill : e = .kill .main
      · subst hKill
        obtain ⟨rest', hAt⟩ := hCalling .main call hCall
        rw [hPc] at hAt
        cases hAt
        rw [effect_kill hCall] at hEntry ⊢
        exact catches_killEffect hCatches hEntry
      · exact ⟨call, (kills_effect_of_ne hKiller hKill).trans hCall, hCatches⟩
    | ready | setting | finished =>
      rw [hPc] at h
      exact h

theorem listed_effect (h : s.Traceable) (hCore : s.Consistent) {e : LifecycleEvent}
    (hGuard : e.guard s) (hLeaves : ¬ s.LeavesBehind e) {proxyName : ProxyName} {k : Nat}
    (hEntry : ((e.effect s).tables .alive).lookup proxyName = some k) :
    (e.effect s).Listed proxyName k := by
  rcases lookup_effect hEntry with hOld | ⟨⟨ok, rfl⟩, hSetting, rfl⟩
  · exact listed_of_registered hCore.calling hGuard (h.listed proxyName k hOld) hOld hEntry
  · have hStill : s.StillToKill (s.proxyName k) := by
      by_contra hLate
      refine hLeaves ?_
      simp only [LeavesBehind, hSetting]
      exact .inl hLate
    have hNotMain : (LifecycleEvent.activator ok).killer ≠ some .main := fun hEq => by cases hEq
    unfold StillToKill at hStill
    unfold Listed
    rw [main_effect hNotMain]
    cases hPc : s.main with
    | killing name rest =>
      rw [hPc] at hStill
      refine hStill.imp_right fun hNow => ?_
      obtain ⟨rfl, call, hCall, hBefore⟩ := hNow
      refine ⟨rfl, call, ?_, .inl hBefore⟩
      exact (kills_effect_of_ne hNotMain fun hEq => by cases hEq).trans hCall
    | ready | setting | finished =>
      rw [hPc] at hStill
      exact hStill

end Traceable

end ProxyLifecycle

namespace ThreadLedger

variable {s : ThreadLedger}

theorem traceable_of_reachable
    (h : threadLedgerSystem.ReachableWhen (fun s e => ¬ s.core.LeavesBehind e) s) :
    s.core.Traceable := by
  apply h.invariant_with fun s hReach =>
    And.intro (ProxyLifecycle.Consistent.of_reachable (reachable_core hReach)) (Booked.of_reachable hReach)
  · rintro s rfl
    exact .started
  · rintro s e ⟨hCore, hBooked⟩ hTraceable ⟨hGuard, -⟩ hLeaves
    have hRemoving : ∀ x proxyName kind found,
        s.core.kills x = some ⟨proxyName, .removing kind found⟩ → ∃ k, found kind = some k := by
      intro x proxyName kind found hCall
      obtain ⟨k, hFound, -⟩ := hBooked.removing x proxyName kind found hCall
      exact ⟨k, hFound⟩
    exact {
      whole := fun _ _ _ hEntry => hTraceable.whole_effect hCore hRemoving hGuard hEntry
      caught := fun _ _ _ _ hCall hAlive hCatches hEntry =>
        hTraceable.caught_effect hCore hGuard hLeaves hCall hAlive hCatches hEntry
      listed := fun _ _ hEntry => hTraceable.listed_effect hCore hGuard hLeaves hEntry }

/-- With `proxy_thread_kill_all` done and the activator at rest nothing is registered. -/
theorem joined_of_finished
    (h : threadLedgerSystem.ReachableWhen (fun s e => ¬ s.core.LeavesBehind e) s)
    (hMain : s.core.main = .finished)
    (hActivator : s.core.activator = .idle ∨ s.core.activator = .ended) {kind : ThreadKind} {k : Nat}
    (hMade : (kind, k) ∈ s.created) : (kind, some k) ∈ s.joins := by
  have hTraceable := traceable_of_reachable h
  rcases (Booked.of_reachable h).accounted kind k hMade with hJoined | hKeeps | hEntry
  · exact hJoined
  · rcases hActivator with hPc | hPc <;>
    · rw [hPc] at hKeeps
      cases hKeeps
  · rcases hTraceable.whole kind _ k hEntry with hAlive | ⟨next, hSetting⟩
    · have hListed := hTraceable.listed _ k hAlive
      unfold ProxyLifecycle.Listed at hListed
      rw [hMain] at hListed
      cases hListed
    · rcases hActivator with hPc | hPc <;>
      · rw [hPc] at hSetting
        cases hSetting

end ThreadLedger

namespace Shutdown

variable {s : Shutdown}

/-! ## The threads when the tables are destroyed -/

def LeavesBehind (s : Shutdown) : ShutdownEvent → Prop
  | .thread e => s.ledger.core.LeavesBehind e
  | .stop => False

instance (s : Shutdown) (e : ShutdownEvent) : Decidable (s.LeavesBehind e) :=
  match e with
  | .thread _ => inferInstanceAs (Decidable (ProxyLifecycle.LeavesBehind _ _))
  | .stop => inferInstanceAs (Decidable False)

theorem reachable_ledger (h : shutdownSystem.ReachableWhen (fun s e => ¬ s.LeavesBehind e) s) :
    threadLedgerSystem.ReachableWhen (fun s e => ¬ s.core.LeavesBehind e) s.ledger := by
  induction h with
  | init hInit =>
    obtain rfl := hInit
    exact .init rfl
  | @step s e _ hGuard hLeaves ih =>
    cases e with
    | thread e => exact ih.step hGuard.1 hLeaves
    | stop => exact ih

/-- What `threads_stop` waits for stays as it is. -/
structure Stopped (s : Shutdown) : Prop where
  main : s.pc.activatorEnd = true → s.ledger.core.main = .finished
  activator : s.pc.activatorOver = true →
    s.ledger.core.activator = .idle ∨ s.ledger.core.activator = .ended

namespace Stopped

theorem thread (h : s.Stopped) {e : LifecycleEvent} (hGuard : e.guard s.ledger.core)
    (hAdmits : s.admits e = true) : (s.thread e).Stopped where
  main hEnd := by
    have hMain := h.main hEnd
    change (e.effect s.ledger.core).main = .finished
    by_cases hKiller : e.killer = some .main
    · cases e with
      | killAll order =>
        have hReady : s.ledger.core.main = .ready := of_decide_eq_true hGuard
        rw [hMain] at hReady
        cases hReady
      | main =>
        have hEnabled : s.ledger.core.mainEnabled = true := hGuard
        simp [ProxyLifecycle.mainEnabled, hMain] at hEnabled
      | request | activator | respond | kill | terminator | alive | exit => cases hKiller
    · rw [ProxyLifecycle.main_effect hKiller]
      exact hMain
  activator hOver := by
    change s.pc.activatorOver = true at hOver
    have hActivator := h.activator hOver
    change (e.effect s.ledger.core).activator = .idle ∨ (e.effect s.ledger.core).activator = .ended
    by_cases hKiller : e.killer = some .activator
    · cases e with
      | request =>
        have hEnd : s.pc.activatorEnd = true := by
          cases hPc : s.pc with
          | killingAll =>
            rw [hPc] at hOver
            cases hOver
          | _ => rfl
        simp [admits, hEnd] at hAdmits
      | activator ok =>
        have hEnabled : s.ledger.core.activatorEnabled = true := hGuard
        rcases hActivator with hPc | hPc <;> simp [ProxyLifecycle.activatorEnabled, hPc] at hEnabled
      | respond outcome =>
        have hWaiting := (Bool.and_eq_true_iff.mp hGuard).1
        rcases hActivator with hPc | hPc <;> simp [ProxyLifecycle.respondEnabled, hPc] at hWaiting
      | kill | terminator | killAll | main | alive | exit => cases hKiller
    · rw [ProxyLifecycle.activator_effect hKiller]
      exact hActivator

theorem stop (h : s.Stopped) (hEnabled : s.stopEnabled = true) : s.stop.Stopped where
  main hEnd := by
    change s.ledger.core.main = .finished
    cases hPc : s.pc with
    | killingAll =>
      simp only [stopEnabled, hPc] at hEnabled
      exact of_decide_eq_true (Bool.and_eq_true_iff.mp hEnabled).1
    | _ => exact h.main (by rw [hPc]; rfl)
  activator hOver := by
    change s.ledger.core.activator = .idle ∨ s.ledger.core.activator = .ended
    cases hPc : s.pc with
    | killingAll | activatorStopped =>
      simp only [Shutdown.stop, hPc] at hOver
      cases hOver
    | terminatorStopped =>
      simp only [stopEnabled, hPc, activatorEnded] at hEnabled
      cases hActivator : s.ledger.core.activator with
      | idle => exact .inl rfl
      | ended => exact .inr rfl
      | _ =>
        rw [hActivator] at hEnabled
        cases hEnabled
    | activatorJoined | cleaning => exact h.activator (by rw [hPc]; rfl)

theorem of_reachable {cond : Shutdown → ShutdownEvent → Prop}
    (h : shutdownSystem.ReachableWhen cond s) : s.Stopped := by
  apply h.invariant
  · rintro s rfl
    exact ⟨fun hEnd => (by cases hEnd), fun hOver => (by cases hOver)⟩
  · rintro s e hStopped hGuard -
    cases e with
    | thread e => exact hStopped.thread hGuard.1.1 hGuard.2
    | stop => exact hStopped.stop hGuard

end Stopped

/-- When the tables are destroyed every thread that an activation made has been joined, in a run in
which no activation is left behind. -/
theorem joined_of_cleaning (h : shutdownSystem.ReachableWhen (fun s e => ¬ s.LeavesBehind e) s)
    (hCleaning : s.pc = .cleaning) {kind : ThreadKind} {k : Nat} (hMade : (kind, k) ∈ s.ledger.created) :
    (kind, some k) ∈ s.ledger.joins := by
  have hStopped : s.Stopped := .of_reachable h
  refine ThreadLedger.joined_of_finished (reachable_ledger h) (hStopped.main ?_)
    (hStopped.activator ?_) hMade
  · rw [hCleaning]
    rfl
  · rw [hCleaning]
    rfl

/-- The flags are set, both threads end, and the tables are destroyed. -/
def stopRun : List ShutdownEvent :=
  [.stop, .stop, .stop, .thread .terminator, .thread .terminator, .stop]

/-- A proxy is killed by `proxy_thread_kill_all`. -/
def killedAtShutdown : List ShutdownEvent :=
  (List.flatten [[.terminator], ProxyLifecycle.activationRun "p", [.killAll .inOrder, .main],
    List.replicate 4 (.kill .main),
    [.exit .subscribe 0, .kill .main, .kill .main, .exit .channel 0, .kill .main, .kill .main],
    ProxyLifecycle.deathRun 0, [.alive 0, .alive 0], List.replicate 3 (.kill .main),
    [.main, .main], List.replicate 3 .terminator, List.replicate 8 (.kill .terminator),
    List.replicate 2 .terminator]).map ShutdownEvent.thread ++ stopRun

set_option maxRecDepth 8000 in
theorem joined_of_cleaning_killedAtShutdown :
    (ThreadKind.alive, some 0) ∈ (shutdownSystem.run .started killedAtShutdown).ledger.joins := by
  refine joined_of_cleaning (s := shutdownSystem.run .started killedAtShutdown) ?_ (by decide) (by decide)
  exact .run (.init rfl) killedAtShutdown (by decide)

/-- `proxy_thread_kill_all` finds no proxy while the first one is on its way. -/
def registeredAtShutdown : List ShutdownEvent :=
  (List.flatten [[.terminator, .request "p", .activator true], List.replicate 8 (.kill .activator),
    List.replicate 4 (.activator true), [.killAll .inOrder, .main, .respond .done],
    List.replicate 5 (.activator true)]).map ShutdownEvent.thread ++ stopRun

set_option maxRecDepth 8000 in
theorem not_joined_of_cleaning :
    ¬ ∀ s kind k, shutdownSystem.Reachable s → s.pc = .cleaning → (kind, k) ∈ s.ledger.created →
      (kind, some k) ∈ s.ledger.joins := by
  intro h
  have hReach : shutdownSystem.Reachable (shutdownSystem.run .started registeredAtShutdown) :=
    .run (.init rfl) registeredAtShutdown (by decide)
  have hJoined := h _ .alive 0 hReach (by decide) (by decide)
  revert hJoined
  decide

end Shutdown

end Gonggo
