import Gonggo.LifecycleSteps

/-! # Numbers and names in the life of the proxies

Every number in a table, in the queue or in the hands of a thread belongs to an activation that was
numbered, under the name of that activation. A call of `proxy_thread_kill` runs only while its caller
is at that call, and for the name that the caller gave it.
-/

namespace Gonggo

namespace ProxyLifecycle

variable {s s' : ProxyLifecycle}

/-- The number is one of an activation under the name. -/
def Names (s : ProxyLifecycle) (proxyName : ProxyName) (k : Nat) : Prop :=
  k < s.count ∧ s.proxyName k = proxyName

structure Numbered (s : ProxyLifecycle) : Prop where
  fresh : ∀ k, s.count ≤ k → s.alive k = .absent
  number : ∀ k, s.activator.number = some k → k < s.count
  creating : ∀ k, s.activator.creating = some k → k + 1 = s.count ∧ s.alive k = .absent
  tables : ∀ kind proxyName k, (s.tables kind).lookup proxyName = some k → s.Names proxyName k
  queue : ∀ entry ∈ s.queue, s.Names entry.1 entry.2
  event : ∀ proxyName k, s.terminator.event = some (proxyName, k) → s.Names proxyName k

namespace Numbered

theorem of_step (h : s.Numbered) (hCount : s'.count = s.count) (hName : s'.proxyName = s.proxyName)
    (hAlive : ∀ k, s.alive k = .absent → s'.alive k = .absent)
    (hNumber : ∀ k, s'.activator.number = some k → s.activator.number = some k)
    (hCreating : ∀ k, s'.activator.creating = some k → s.activator.creating = some k)
    (hTables : ∀ kind proxyName k, (s'.tables kind).lookup proxyName = some k →
      s.Names proxyName k)
    (hQueue : ∀ entry ∈ s'.queue, s.Names entry.1 entry.2)
    (hEvent : ∀ proxyName k, s'.terminator.event = some (proxyName, k) → s.Names proxyName k) :
    s'.Numbered := by
  have hNames : ∀ proxyName k, s.Names proxyName k → s'.Names proxyName k := by
    intro proxyName k hOld
    rw [Names, hCount, hName]
    exact hOld
  refine ⟨fun k hk => ?_, fun k hk => ?_, fun k hk => ?_, fun kind proxyName k hk => ?_,
    fun entry hEntry => ?_, fun proxyName k hk => ?_⟩
  · exact hAlive k (h.fresh k (hCount ▸ hk))
  · rw [hCount]
    exact h.number k (hNumber k hk)
  · rw [hCount]
    obtain ⟨hLast, hAbsent⟩ := h.creating k (hCreating k hk)
    exact ⟨hLast, hAlive k hAbsent⟩
  · exact hNames _ _ (hTables kind proxyName k hk)
  · exact hNames _ _ (hQueue entry hEntry)
  · exact hNames _ _ (hEvent proxyName k hk)

theorem lookup_set {kind other : ThreadKind} {k j : Nat} {proxyName : ProxyName} (h : s.Numbered)
    (hk : k < s.count)
    (hj : ((s.tableSet kind (((s.tables kind).remove (s.proxyName k)).insert (s.proxyName k) k)).tables
      other).lookup proxyName = some j) : s.Names proxyName j := by
  rcases lookup_tableSet hj with ⟨-, rfl, rfl⟩ | hOld
  · exact ⟨hk, rfl⟩
  · exact h.tables other proxyName j hOld

theorem of_activator (h : s.Numbered) (hCount : s'.count = s.count) (hName : s'.proxyName = s.proxyName)
    (hAlive : s'.alive = s.alive)
    (hNumber : ∀ k, s'.activator.number = some k → s.activator.number = some k)
    (hCreating : ∀ k, s'.activator.creating = some k → s.activator.creating = some k)
    (hTables : ∀ kind proxyName k, (s'.tables kind).lookup proxyName = some k →
      s.Names proxyName k)
    (hQueue : s'.queue = s.queue) (hTerminator : s'.terminator = s.terminator) : s'.Numbered := by
  refine h.of_step hCount hName (fun k => by rw [hAlive]; exact id) hNumber hCreating hTables ?_ ?_
  · rw [hQueue]
    exact h.queue
  · rw [hTerminator]
    exact h.event

theorem of_same (h : s.Numbered) (hCount : s'.count = s.count) (hName : s'.proxyName = s.proxyName)
    (hAlive : ∀ k, s.alive k = .absent → s'.alive k = .absent) (hActivator : s'.activator = s.activator)
    (hTables : ∀ kind proxyName k, (s'.tables kind).lookup proxyName = some k →
      (s.tables kind).lookup proxyName = some k)
    (hQueue : ∀ entry ∈ s'.queue, s.Names entry.1 entry.2)
    (hEvent : ∀ proxyName k, s'.terminator.event = some (proxyName, k) → s.Names proxyName k) :
    s'.Numbered := by
  refine h.of_step hCount hName hAlive ?_ ?_ ?_ hQueue hEvent
  · rw [hActivator]
    exact fun _ => id
  · rw [hActivator]
    exact fun _ => id
  · exact fun kind proxyName k hk => h.tables kind proxyName k (hTables kind proxyName k hk)

theorem killEffect (h : s.Numbered) (x : Killer) (call : KillCall) : (s.killEffect x call).Numbered := by
  obtain ⟨-, -, hQueue, hActivator, hTerminator, -, hAlive, hCount, hName, -⟩ := s.killEffect_frame x call
  refine h.of_same hCount hName ?_ hActivator (fun _ _ _ => lookup_killEffect) ?_ ?_
  · rw [hAlive]
    exact fun _ => id
  · rw [hQueue]
    exact h.queue
  · rw [hTerminator]
    exact h.event

theorem subscribeCreating (h : s.Numbered) {proxyName : ProxyName}
    (hPc : s.activator = .subscribeCreating proxyName) (ok : Bool) :
    (s.activatorEffect ok).Numbered := by
  have hNames : ∀ other k, s.Names other k → k < s.count + 1 ∧
      Function.update s.proxyName s.count proxyName k = other := by
    rintro other k ⟨hk, rfl⟩
    exact ⟨Nat.lt_succ_of_lt hk, Function.update_of_ne (Nat.ne_of_lt hk) ..⟩
  simp only [activatorEffect, hPc]
  refine ⟨fun k hk => h.fresh k (Nat.le_of_succ_le hk), fun k hk => ?_, fun k hk => ?_,
    fun kind other k hk => hNames other k (h.tables kind other k hk),
    fun entry hEntry => hNames _ _ (h.queue entry hEntry),
    fun other k hk => hNames other k (h.event other k hk)⟩
  · cases ok <;> cases hk <;> exact Nat.lt_succ_self _
  · cases ok
    · cases hk
    · cases hk
      exact ⟨rfl, h.fresh _ (Nat.le_refl _)⟩

theorem aliveCreating (h : s.Numbered) {k : Nat} (hPc : s.activator = .aliveCreating k) (ok : Bool) :
    (s.activatorEffect ok).Numbered := by
  have hk := h.number k (by rw [hPc]; rfl)
  simp only [activatorEffect, hPc]
  refine ⟨fun j hj => ?_, fun j hj => ?_, (fun _ hk => by cases hk), h.tables, h.queue, h.event⟩
  · show Function.update s.alive k _ j = .absent
    rw [Function.update_of_ne (Nat.ne_of_gt (Nat.lt_of_lt_of_le hk hj))]
    exact h.fresh j hj
  · cases hj
    exact hk

theorem activatorEffect (h : s.Numbered) (ok : Bool) (hEnabled : s.activatorEnabled = true) :
    (s.activatorEffect ok).Numbered := by
  cases hPc : s.activator with
  | checking proxyName =>
    simp only [ProxyLifecycle.activatorEffect, hPc]
    split <;>
      exact h.of_activator rfl rfl rfl (fun _ hk => by cases hk) (fun _ hk => by cases hk) h.tables rfl
        rfl
  | subscribeCreating proxyName => exact h.subscribeCreating hPc ok
  | aliveCreating k => exact h.aliveCreating hPc ok
  | idle | dying | responding | ended => simp [activatorEnabled, hPc] at hEnabled
  | killing proxyName =>
    simp only [ProxyLifecycle.activatorEffect, hPc]
    generalize (ok && s.segmentsLinked proxyName) = opened
    refine h.of_activator rfl rfl rfl (fun k hk => ?_) (fun k hk => ?_) h.tables rfl rfl
    · cases opened <;> cases hk
    · cases opened <;> cases hk
  | channelCreating k =>
    simp only [ProxyLifecycle.activatorEffect, hPc]
    refine h.of_activator rfl rfl rfl (fun j hj => ?_) (fun j hj => ?_) h.tables rfl rfl
    · rw [hPc]
      cases ok <;> exact hj
    · rw [hPc]
      cases ok
      · cases hj
      · exact hj
  | stopping k last ending =>
    simp only [ProxyLifecycle.activatorEffect, hPc]
    refine h.of_activator rfl rfl rfl (fun j hj => ?_) (fun _ hk => by cases hk) h.tables rfl rfl
    rw [hPc]
    exact hj
  | joining kind k last ending =>
    simp only [ProxyLifecycle.activatorEffect, hPc]
    refine h.of_activator rfl rfl rfl (fun j hj => ?_) (fun j hj => ?_) h.tables rfl rfl
    · rw [hPc]
      cases hNext : (if kind = last then none else kind.next) <;> simp only [hNext] at hj
      · cases ending <;> cases hj
      · exact hj
    · cases hNext : (if kind = last then none else kind.next) <;> simp only [hNext] at hj
      · cases ending <;> cases hj
      · cases hj
  | setting kind k =>
    have hk := h.number k (by rw [hPc]; rfl)
    simp only [ProxyLifecycle.activatorEffect, hPc]
    refine h.of_activator rfl rfl rfl (fun j hj => ?_) (fun j hj => ?_) (fun other proxyName j hj => ?_)
      rfl rfl
    · rw [hPc]
      cases hNext : kind.next <;> simp only [hNext] at hj <;> exact hj
    · cases hNext : kind.next <;> simp only [hNext] at hj <;> cases hj
    · exact h.lookup_set hk hj
  | waking k =>
    simp only [ProxyLifecycle.activatorEffect, hPc]
    refine h.of_activator rfl rfl rfl (fun j hj => ?_) (fun _ hk => by cases hk) h.tables rfl rfl
    rw [hPc]
    exact hj
  | notifying k =>
    simp only [ProxyLifecycle.activatorEffect, hPc]
    exact h.of_activator rfl rfl rfl (fun _ hk => by cases hk) (fun _ hk => by cases hk) h.tables rfl rfl

theorem respond (h : s.Numbered) (outcome : RespondOutcome) :
    (s.respond outcome).Numbered := by
  refine h.of_activator rfl rfl rfl (fun k hk => ?_) (fun k hk => ?_) h.tables rfl rfl
  · cases hPc : s.activator <;> simp only [ProxyLifecycle.respond, hPc] at hk
    case responding =>
      split at hk <;> exact hk
    case dying =>
      split at hk <;> cases hk
    all_goals exact hk
  · cases hPc : s.activator <;> simp only [ProxyLifecycle.respond, hPc] at hk
    case responding | dying =>
      split at hk <;> cases hk
    all_goals exact hk

theorem terminatorEffect (h : s.Numbered) : s.terminatorEffect.Numbered := by
  cases hPc : s.terminator with
  | starting | waiting | killing =>
    simp only [ProxyLifecycle.terminatorEffect, hPc]
    exact h.of_same rfl rfl (fun _ => id) rfl (fun _ _ _ => id) h.queue (fun _ _ hk => by cases hk)
  | draining =>
    have hEntries := h.queue
    cases hQueue : s.queue with
    | nil =>
      simp only [ProxyLifecycle.terminatorEffect, hPc, hQueue]
      exact h.of_same rfl rfl (fun _ => id) rfl (fun _ _ _ => id)
        (fun _ hMem => absurd hMem List.not_mem_nil) (fun _ _ hk => by cases hk)
    | cons entry rest =>
      rw [hQueue] at hEntries
      simp only [ProxyLifecycle.terminatorEffect, hPc, hQueue]
      refine h.of_same rfl rfl (fun _ => id) rfl (fun _ _ _ => id)
        (fun other hOther => hEntries other (List.mem_cons_of_mem _ hOther)) (fun proxyName k hk => ?_)
      cases hk
      exact hEntries entry List.mem_cons_self
  | unsenting proxyName k =>
    have hNames := h.event proxyName k (by rw [hPc]; rfl)
    simp only [ProxyLifecycle.terminatorEffect, hPc]
    refine h.of_same rfl rfl (fun _ => id) rfl (fun _ _ _ => id) h.queue fun other j hj => ?_
    cases hj
    exact hNames

theorem mainEffect (h : s.Numbered) : s.mainEffect.Numbered := by
  cases hPc : s.main with
  | setting names =>
    cases names <;> simp only [ProxyLifecycle.mainEffect, hPc] <;>
      exact h.of_same rfl rfl (fun _ => id) rfl (fun _ _ _ => id) h.queue h.event
  | _ =>
    simp only [ProxyLifecycle.mainEffect, hPc]
    exact h.of_same rfl rfl (fun _ => id) rfl (fun _ _ _ => id) h.queue h.event

theorem aliveEffect (h : s.Numbered) (k : Nat) : (s.aliveEffect k).Numbered := by
  have hAbsent : ∀ pc, s.alive k ≠ .absent → ∀ j, s.alive j = .absent →
      Function.update s.alive k pc j = .absent := by
    intro pc hMade j hj
    have hOther : j ≠ k := fun hEq => hMade (hEq ▸ hj)
    rw [Function.update_of_ne hOther]
    exact hj
  have hMade : s.alive k ≠ .absent → k < s.count := by
    intro hMade
    by_contra hLate
    exact hMade (h.fresh k (Nat.le_of_not_lt hLate))
  cases hPc : s.alive k with
  | absent | finished =>
    simp only [ProxyLifecycle.aliveEffect, hPc]
    exact h
  | waiting | terminatingSetting | notifying =>
    simp only [ProxyLifecycle.aliveEffect, hPc]
    exact h.of_same rfl rfl (hAbsent _ (by simp [hPc])) rfl (fun _ _ _ => id) h.queue h.event
  | awaking =>
    simp only [ProxyLifecycle.aliveEffect, hPc]
    refine h.of_same rfl rfl (hAbsent _ (by simp [hPc])) rfl (fun _ _ _ => id)
      (fun entry hEntry => ?_) h.event
    rcases List.mem_append.mp hEntry with hOld | hNew
    · exact h.queue entry hOld
    · rw [List.mem_singleton.mp hNew]
      exact ⟨hMade (by simp [hPc]), rfl⟩

theorem effect (h : s.Numbered) (e : LifecycleEvent) (hGuard : e.guard s) : (e.effect s).Numbered := by
  cases e with
  | request proxyName => exact h.of_activator rfl rfl rfl nofun nofun h.tables rfl rfl
  | activator ok => exact h.activatorEffect ok hGuard
  | respond outcome => exact h.respond outcome
  | kill x =>
    obtain ⟨call, hCall, -⟩ := exists_of_guard_kill hGuard
    rw [effect_kill hCall]
    exact h.killEffect x call
  | terminator => exact h.terminatorEffect
  | killAll order => exact h.of_same rfl rfl (fun _ => id) rfl (fun _ _ _ => id) h.queue h.event
  | main => exact h.mainEffect
  | alive k => exact h.aliveEffect k
  | exit kind k => exact h.of_same rfl rfl (fun _ => id) rfl (fun _ _ _ => id) h.queue h.event

theorem started : ProxyLifecycle.started.Numbered where
  fresh _ _ := rfl
  number _ h := nomatch h
  creating _ h := nomatch h
  tables kind proxyName k h := by
    have hNone : (HashTable.empty : HashTable ProxyName Nat).lookup proxyName = some k := h
    rw [HashTable.lookup_empty] at hNone
    cases hNone
  queue _ h := nomatch h
  event _ _ h := nomatch h

end Numbered

theorem numbered_of_reachable {cond : ProxyLifecycle → LifecycleEvent → Prop}
    (h : proxyLifecycleSystem.ReachableWhen cond s) : s.Numbered := by
  apply h.invariant
  · rintro s rfl
    exact Numbered.started
  · exact fun s e hNumbered hGuard _ => hNumbered.effect e hGuard

/-! ## The callers of `proxy_thread_kill` -/

/-- The thread is at its call of `proxy_thread_kill`. -/
def AtKill (s : ProxyLifecycle) : Killer → ProxyName → Prop
  | .activator, proxyName => s.activator = .killing proxyName
  | .terminator, proxyName => ∃ k, s.terminator = .killing proxyName k
  | .main, proxyName => ∃ rest, s.main = .killing proxyName rest

def Calling (s : ProxyLifecycle) : Prop :=
  ∀ x call, s.kills x = some call → s.AtKill x call.proxyName

/-- A thread that takes a step of its own is not inside a call. -/
theorem Calling.outside (h : s.Calling) {e : LifecycleEvent} {x : Killer} (hGuard : e.guard s)
    (hx : e.killer = some x) : s.kills x = none := by
  cases hCall : s.kills x with
  | none => rfl
  | some call =>
    have hAt := h x call hCall
    cases e with
    | request proxyName =>
      cases hx
      rw [AtKill, (of_decide_eq_true hGuard).1] at hAt
      cases hAt
    | activator ok =>
      cases hx
      have hEnabled : s.activatorEnabled = true := hGuard
      simp [activatorEnabled, show s.activator = _ from hAt, hCall] at hEnabled
    | respond outcome =>
      cases hx
      have hEnabled := (Bool.and_eq_true_iff.mp hGuard).1
      simp [respondEnabled, show s.activator = _ from hAt] at hEnabled
    | terminator =>
      cases hx
      obtain ⟨k, hKilling⟩ := hAt
      have hEnabled : s.terminatorEnabled = true := hGuard
      simp [terminatorEnabled, hKilling, hCall] at hEnabled
    | killAll order =>
      cases hx
      obtain ⟨rest, hKilling⟩ := hAt
      have hReady : s.main = .ready := of_decide_eq_true hGuard
      rw [hReady] at hKilling
      cases hKilling
    | main =>
      cases hx
      obtain ⟨rest, hKilling⟩ := hAt
      have hEnabled : s.mainEnabled = true := hGuard
      simp [mainEnabled, hKilling, hCall] at hEnabled
    | kill | alive | exit => cases hx

theorem AtKill.effect {e : LifecycleEvent} {x : Killer} {proxyName : ProxyName}
    (h : s.AtKill x proxyName) (hx : e.killer ≠ some x) : (e.effect s).AtKill x proxyName := by
  cases x with
  | activator =>
    rw [AtKill, activator_effect hx]
    exact h
  | terminator =>
    have hNot : e ≠ .terminator := fun hEq => hx (hEq ▸ rfl)
    rw [AtKill, (terminator_effect hNot).1]
    exact h
  | main =>
    rw [AtKill, main_effect hx]
    exact h

theorem kills_effect_of_ne {e : LifecycleEvent} {x : Killer} (hx : e.killer ≠ some x)
    (hKill : e ≠ .kill x) : (e.effect s).kills x = s.kills x := by
  cases e with
  | kill y =>
    have hOther : x ≠ y := fun hEq => hKill (hEq ▸ rfl)
    cases hCall : s.kills y with
    | none => rw [effect_kill_none hCall]
    | some call => rw [effect_kill hCall, kills_killEffect_ne s call hOther]
  | activator ok =>
    have hOther : x ≠ .activator := fun hEq => hx (hEq ▸ rfl)
    simp only [LifecycleEvent.effect, activatorEffect]
    cases s.activator with
    | checking proxyName =>
      dsimp only
      split
      · rfl
      · exact Function.update_of_ne hOther ..
    | _ => rfl
  | terminator =>
    have hOther : x ≠ .terminator := fun hEq => hx (hEq ▸ rfl)
    simp only [LifecycleEvent.effect, terminatorEffect]
    cases s.terminator with
    | draining => cases s.queue <;> rfl
    | unsenting => exact Function.update_of_ne hOther ..
    | _ => rfl
  | main =>
    have hOther : x ≠ .main := fun hEq => hx (hEq ▸ rfl)
    simp only [LifecycleEvent.effect, mainEffect]
    cases s.main with
    | setting names =>
      cases names with
      | nil => rfl
      | cons => exact Function.update_of_ne hOther ..
    | _ => rfl
  | alive k =>
    obtain ⟨-, -, -, hKills, -⟩ := s.aliveEffect_frame k
    exact congrFun hKills x
  | request | respond | killAll | exit => rfl

/-- A step of its own leaves a thread outside, or at the start of a call. -/
theorem kills_effect_of_killer {e : LifecycleEvent} {x : Killer} (hx : e.killer = some x) :
    (e.effect s).kills x = s.kills x ∨
      ∃ proxyName, (e.effect s).kills x = some ⟨proxyName, .locking⟩ ∧ (e.effect s).AtKill x proxyName := by
  cases e with
  | activator ok =>
    cases hx
    simp only [LifecycleEvent.effect, activatorEffect]
    cases s.activator with
    | checking proxyName =>
      dsimp only
      split
      · exact .inl rfl
      · exact .inr ⟨proxyName, kills_setKill_self .., rfl⟩
    | _ => exact .inl rfl
  | terminator =>
    cases hx
    simp only [LifecycleEvent.effect, terminatorEffect]
    cases s.terminator with
    | draining => cases s.queue <;> exact .inl rfl
    | unsenting proxyName k => exact .inr ⟨proxyName, kills_setKill_self .., k, rfl⟩
    | _ => exact .inl rfl
  | main =>
    cases hx
    simp only [LifecycleEvent.effect, mainEffect]
    cases s.main with
    | setting names =>
      cases names with
      | nil => exact .inl rfl
      | cons proxyName rest => exact .inr ⟨proxyName, kills_setKill_self .., rest, rfl⟩
    | _ => exact .inl rfl
  | request | respond | killAll =>
    cases hx
    exact .inl rfl
  | kill | alive | exit => cases hx

theorem kills_effect {e : LifecycleEvent} (hGuard : e.guard s) {x : Killer}
    {call : KillCall} (h : (e.effect s).kills x = some call) :
    s.kills x = some call ∨
      call.pc = .locking ∧ e.killer = some x ∧ (e.effect s).AtKill x call.proxyName ∨
      ∃ old, e = .kill x ∧ s.kills x = some old ∧ e.effect s = s.killEffect x old ∧
        s.killEnabled old = true := by
  by_cases hKiller : e.killer = some x
  · rcases kills_effect_of_killer hKiller with hSame | ⟨proxyName, hBegins, hAt⟩
    · exact .inl (hSame ▸ h)
    · rw [hBegins] at h
      cases h
      exact .inr (.inl ⟨rfl, hKiller, hAt⟩)
  · by_cases hKill : e = .kill x
    · subst hKill
      obtain ⟨old, hOld, hEnabled⟩ := exists_of_guard_kill hGuard
      exact .inr (.inr ⟨old, rfl, hOld, effect_kill hOld, hEnabled⟩)
    · rw [kills_effect_of_ne hKiller hKill] at h
      exact .inl h

theorem Calling.effect (h : s.Calling) (e : LifecycleEvent) (hGuard : e.guard s) :
    (e.effect s).Calling := by
  intro x call hCall
  rcases kills_effect hGuard hCall with hOld | ⟨-, -, hAt⟩ | ⟨old, rfl, hOld, hEffect, -⟩
  · have hNot : e.killer ≠ some x := by
      intro hKiller
      rw [h.outside hGuard hKiller] at hOld
      cases hOld
    exact (h x call hOld).effect hNot
  · exact hAt
  · rw [hEffect] at hCall
    rw [proxyName_killEffect hCall]
    exact (h x old hOld).effect nofun

theorem calling_of_reachable {cond : ProxyLifecycle → LifecycleEvent → Prop}
    (h : proxyLifecycleSystem.ReachableWhen cond s) : s.Calling := by
  apply h.invariant
  · rintro s rfl
    exact nofun
  · exact fun s e hCalling hGuard _ => hCalling.effect e hGuard

/-! ## Runs that the examples are made of -/

/-- An activation that succeeds, of a proxy that has no threads. -/
def activationRun (proxyName : ProxyName) : List LifecycleEvent :=
  List.flatten [[.request proxyName, .activator true], List.replicate 8 (.kill .activator),
    List.replicate 4 (.activator true), [.respond .done], List.replicate 5 (.activator true)]

/-- The process ends and its alive thread finds out. -/
def deathRun (k : Nat) : List LifecycleEvent := [.exit .alive k, .alive k, .alive k]

/-- The proxy dies alone and the terminator kills its threads, up to the join of the alive thread. -/
def quietDeathRun : List LifecycleEvent :=
  List.flatten [[.terminator], activationRun "p", deathRun 0, [.alive 0],
    List.replicate 3 .terminator, List.replicate 4 (.kill .terminator),
    [.exit .subscribe 0, .kill .terminator, .kill .terminator, .exit .channel 0, .kill .terminator,
      .kill .terminator]]

/-- The event of a proxy that died alone, handled to the end. -/
def quietDeathHandled : List LifecycleEvent :=
  List.flatten [quietDeathRun, [.alive 0], List.replicate 3 (.kill .terminator), [.terminator]]

end ProxyLifecycle

end Gonggo
