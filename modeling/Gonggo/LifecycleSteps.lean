import Gonggo.ProxyLifecycle

/-! # What a step of the proxies can do

For each part of the state, the steps that change it and how.
-/

namespace Gonggo

/-- The activation that the activator is at. -/
def ActivatorPc.number : ActivatorPc → Option Nat
  | .channelCreating k | .aliveCreating k | .responding k _ _ | .stopping k _ _ | .joining _ k _ _
  | .setting _ k | .waking k | .notifying k => some k
  | _ => none

/-- The activation whose alive thread is still to be made. -/
def ActivatorPc.creating : ActivatorPc → Option Nat
  | .channelCreating k | .aliveCreating k => some k
  | _ => none

/-- The event that the terminator handles. -/
def TerminatorPc.event : TerminatorPc → Option (ProxyName × Nat)
  | .unsenting proxyName k | .killing proxyName k => some (proxyName, k)
  | _ => none

/-- The killer whose own step this is, outside `proxy_thread_kill`. -/
def LifecycleEvent.killer : LifecycleEvent → Option Killer
  | .request _ | .activator _ | .respond _ => some .activator
  | .terminator => some .terminator
  | .killAll _ | .main => some .main
  | .kill _ | .alive _ | .exit _ _ => none

theorem LifecycleEvent.killer_eq_terminator {e : LifecycleEvent} (h : e.killer = some .terminator) :
    e = .terminator := by
  cases e with
  | terminator => rfl
  | _ => cases h

namespace ProxyLifecycle

variable {s : ProxyLifecycle}

/-! ## What a call of `proxy_thread_kill` leaves alone -/

theorem killEffect_frame (s : ProxyLifecycle) (x : Killer) (call : KillCall) :
    (s.killEffect x call).terminatorLock = s.terminatorLock ∧
      (s.killEffect x call).terminatingArr = s.terminatingArr ∧
      (s.killEffect x call).queue = s.queue ∧ (s.killEffect x call).activator = s.activator ∧
      (s.killEffect x call).terminator = s.terminator ∧ (s.killEffect x call).main = s.main ∧
      (s.killEffect x call).alive = s.alive ∧ (s.killEffect x call).count = s.count ∧
      (s.killEffect x call).proxyName = s.proxyName ∧ (s.killEffect x call).handled = s.handled := by
  unfold killEffect
  cases call.pc <;> exact ⟨rfl, rfl, rfl, rfl, rfl, rfl, rfl, rfl, rfl, rfl⟩

theorem kills_killEffect_ne (s : ProxyLifecycle) {x y : Killer} (call : KillCall) (h : y ≠ x) :
    (s.killEffect x call).kills y = s.kills y := by
  unfold killEffect
  cases call.pc <;> exact Function.update_of_ne h ..

theorem kills_setKill_self (s : ProxyLifecycle) (x : Killer) (call : Option KillCall) :
    (s.setKill x call).kills x = call :=
  Function.update_self ..

theorem tables_tableSet_self (s : ProxyLifecycle) (kind : ThreadKind) (table : HashTable ProxyName Nat) :
    (s.tableSet kind table).tables kind = table :=
  Function.update_self ..

theorem tables_tableSet_ne (s : ProxyLifecycle) {kind other : ThreadKind} (h : other ≠ kind)
    (table : HashTable ProxyName Nat) : (s.tableSet kind table).tables other = s.tables other :=
  Function.update_of_ne h ..

theorem proxyName_killEffect {x : Killer} {call call' : KillCall}
    (h : (s.killEffect x call).kills x = some call') : call'.proxyName = call.proxyName := by
  unfold killEffect at h
  cases hPc : call.pc <;> simp only [hPc, kills_setKill_self, Option.some.injEq] at h
  · rw [← h]
  · rw [← h]
  · rw [← h]
  · rw [← h]
  · cases h

theorem lookup_killEffect {x : Killer} {call : KillCall} {kind : ThreadKind} {proxyName : ProxyName}
    {k : Nat} (h : ((s.killEffect x call).tables kind).lookup proxyName = some k) :
    (s.tables kind).lookup proxyName = some k := by
  unfold killEffect at h
  cases hPc : call.pc with
  | removing removed found =>
    simp only [hPc] at h
    change ((s.tableSet removed ((s.tables removed).remove call.proxyName)).tables kind).lookup
      proxyName = some k at h
    by_cases hKind : kind = removed
    · subst hKind
      rw [tables_tableSet_self, HashTable.lookup_remove] at h
      split at h
      · cases h
      · exact h
    · rwa [tables_tableSet_ne _ hKind] at h
  | _ =>
    simp only [hPc] at h
    exact h

theorem lookup_tableSet {kind other : ThreadKind} {name proxyName : ProxyName} {k j : Nat}
    (h : ((s.tableSet kind (((s.tables kind).remove name).insert name k)).tables other).lookup
      proxyName = some j) :
    (other = kind ∧ proxyName = name ∧ j = k) ∨ (s.tables other).lookup proxyName = some j := by
  by_cases hKind : other = kind
  · subst hKind
    rw [tables_tableSet_self, HashTable.lookup_insert] at h
    split at h
    · rename_i hName
      exact .inl ⟨rfl, hName, (Option.some.inj h).symm⟩
    · rename_i hName
      rw [HashTable.lookup_remove_ne _ hName] at h
      exact .inr h
  · rw [tables_tableSet_ne _ hKind] at h
    exact .inr h

/-! ## What the other threads leave alone -/

theorem activatorEffect_frame (s : ProxyLifecycle) (ok : Bool) :
    (s.activatorEffect ok).killLock = s.killLock ∧
      (s.activatorEffect ok).terminatorLock = s.terminatorLock ∧
      (s.activatorEffect ok).queue = s.queue ∧ (s.activatorEffect ok).terminator = s.terminator ∧
      (s.activatorEffect ok).main = s.main ∧ (s.activatorEffect ok).handled = s.handled := by
  unfold activatorEffect
  cases s.activator with
  | checking proxyName =>
    refine ⟨?_, ?_, ?_, ?_, ?_, ?_⟩ <;>
    · dsimp only
      split <;> rfl
  | _ => exact ⟨rfl, rfl, rfl, rfl, rfl, rfl⟩

theorem terminatorEffect_frame (s : ProxyLifecycle) :
    s.terminatorEffect.killLock = s.killLock ∧ s.terminatorEffect.tables = s.tables ∧
      s.terminatorEffect.activator = s.activator ∧ s.terminatorEffect.main = s.main ∧
      s.terminatorEffect.alive = s.alive ∧ s.terminatorEffect.count = s.count ∧
      s.terminatorEffect.proxyName = s.proxyName := by
  unfold terminatorEffect
  cases s.terminator with
  | draining => cases s.queue <;> exact ⟨rfl, rfl, rfl, rfl, rfl, rfl, rfl⟩
  | _ => exact ⟨rfl, rfl, rfl, rfl, rfl, rfl, rfl⟩

theorem mainEffect_frame (s : ProxyLifecycle) :
    s.mainEffect.killLock = s.killLock ∧ s.mainEffect.terminatorLock = s.terminatorLock ∧
      s.mainEffect.queue = s.queue ∧ s.mainEffect.tables = s.tables ∧
      s.mainEffect.activator = s.activator ∧ s.mainEffect.terminator = s.terminator ∧
      s.mainEffect.alive = s.alive ∧ s.mainEffect.count = s.count ∧
      s.mainEffect.proxyName = s.proxyName ∧ s.mainEffect.handled = s.handled := by
  unfold mainEffect
  cases s.main with
  | setting names => cases names <;> exact ⟨rfl, rfl, rfl, rfl, rfl, rfl, rfl, rfl, rfl, rfl⟩
  | _ => exact ⟨rfl, rfl, rfl, rfl, rfl, rfl, rfl, rfl, rfl, rfl⟩

theorem aliveEffect_frame (s : ProxyLifecycle) (k : Nat) :
    (s.aliveEffect k).killLock = s.killLock ∧ (s.aliveEffect k).terminatorLock = s.terminatorLock ∧
      (s.aliveEffect k).tables = s.tables ∧ (s.aliveEffect k).kills = s.kills ∧
      (s.aliveEffect k).activator = s.activator ∧ (s.aliveEffect k).terminator = s.terminator ∧
      (s.aliveEffect k).main = s.main ∧ (s.aliveEffect k).count = s.count ∧
      (s.aliveEffect k).proxyName = s.proxyName ∧ (s.aliveEffect k).handled = s.handled := by
  unfold aliveEffect
  cases s.alive k <;> exact ⟨rfl, rfl, rfl, rfl, rfl, rfl, rfl, rfl, rfl, rfl⟩

/-! ## Which steps change a part of the state -/

theorem exists_of_guard_kill {x : Killer} (h : (LifecycleEvent.kill x).guard s) :
    ∃ call, s.kills x = some call ∧ s.killEnabled call = true := by
  obtain ⟨call, hCall, hEnabled⟩ := (Option.any_eq_true _ _).mp h
  exact ⟨call, hCall, hEnabled⟩

theorem effect_kill {x : Killer} {call : KillCall} (h : s.kills x = some call) :
    (LifecycleEvent.kill x).effect s = s.killEffect x call := by
  simp only [LifecycleEvent.effect, h]

theorem effect_kill_none {x : Killer} (h : s.kills x = none) :
    (LifecycleEvent.kill x).effect s = s := by
  simp only [LifecycleEvent.effect, h]

/-- Only the thread itself and its creation move an alive thread. -/
theorem alive_effect (s : ProxyLifecycle) (e : LifecycleEvent) (k : Nat) :
    (e.effect s).alive k = s.alive k ∨ s.activator.creating = some k ∨ e = .alive k := by
  cases e with
  | activator ok =>
    cases hPc : s.activator with
    | aliveCreating j =>
      by_cases hk : k = j
      · exact .inr (.inl (by rw [hk]; rfl))
      · refine .inl ?_
        simp only [LifecycleEvent.effect, activatorEffect, hPc]
        exact Function.update_of_ne hk ..
    | checking proxyName =>
      refine .inl ?_
      simp only [LifecycleEvent.effect, activatorEffect, hPc]
      split <;> rfl
    | _ =>
      refine .inl ?_
      simp only [LifecycleEvent.effect, activatorEffect, hPc, tableSet]
  | alive j =>
    by_cases hk : k = j
    · exact .inr (.inr (by rw [hk]))
    · refine .inl ?_
      cases hPc : s.alive j <;>
        simp only [LifecycleEvent.effect, aliveEffect, hPc, setAlive, proxyThreadTerminatingSet,
          Function.update_of_ne hk]
  | kill x =>
    cases hCall : s.kills x with
    | none => exact .inl (by rw [effect_kill_none hCall])
    | some call =>
      obtain ⟨-, -, -, -, -, -, hAlive, -⟩ := s.killEffect_frame x call
      exact .inl (by rw [effect_kill hCall, hAlive])
  | terminator =>
    obtain ⟨-, -, -, -, hAlive, -⟩ := s.terminatorEffect_frame
    exact .inl (congrFun hAlive k)
  | main =>
    obtain ⟨-, -, -, -, -, -, hAlive, -⟩ := s.mainEffect_frame
    exact .inl (congrFun hAlive k)
  | request | respond | killAll | exit => exact .inl rfl

/-- A table gains an entry only where the activator sets it. -/
theorem lookup_effect {e : LifecycleEvent} {kind : ThreadKind} {proxyName : ProxyName} {j : Nat}
    (h : ((e.effect s).tables kind).lookup proxyName = some j) :
    (s.tables kind).lookup proxyName = some j ∨
      (∃ ok, e = .activator ok) ∧ s.activator = .setting kind j ∧ proxyName = s.proxyName j := by
  cases e with
  | activator ok =>
    simp only [LifecycleEvent.effect, activatorEffect] at h
    cases hPc : s.activator with
    | setting setKind k =>
      simp only [hPc] at h
      rcases lookup_tableSet h with ⟨rfl, hName, rfl⟩ | hOld
      · exact .inr ⟨⟨ok, rfl⟩, rfl, hName⟩
      · exact .inl hOld
    | checking name =>
      simp only [hPc] at h
      split at h <;> exact .inl h
    | _ =>
      simp only [hPc] at h
      exact .inl h
  | kill x =>
    cases hCall : s.kills x with
    | none =>
      exact .inl (effect_kill_none hCall ▸ h)
    | some call =>
      rw [effect_kill hCall] at h
      exact .inl (lookup_killEffect h)
  | terminator =>
    obtain ⟨-, hTables, -⟩ := s.terminatorEffect_frame
    rw [LifecycleEvent.effect, hTables] at h
    exact .inl h
  | main =>
    obtain ⟨-, -, -, hTables, -⟩ := s.mainEffect_frame
    rw [LifecycleEvent.effect, hTables] at h
    exact .inl h
  | alive k =>
    obtain ⟨-, -, hTables, -⟩ := s.aliveEffect_frame k
    rw [LifecycleEvent.effect, hTables] at h
    exact .inl h
  | request | respond | killAll | exit => exact .inl h

theorem terminator_effect {e : LifecycleEvent} (h : e ≠ .terminator) :
    (e.effect s).terminator = s.terminator ∧ (e.effect s).terminatorLock = s.terminatorLock ∧
      (e.effect s).handled = s.handled := by
  cases e with
  | activator ok =>
    obtain ⟨-, hLock, -, hTerminator, -, hHandled⟩ := s.activatorEffect_frame ok
    exact ⟨hTerminator, hLock, hHandled⟩
  | kill x =>
    cases hCall : s.kills x with
    | none =>
      rw [effect_kill_none hCall]
      exact ⟨rfl, rfl, rfl⟩
    | some call =>
      obtain ⟨hLock, -, -, -, hTerminator, -, -, -, -, hHandled⟩ := s.killEffect_frame x call
      rw [effect_kill hCall]
      exact ⟨hTerminator, hLock, hHandled⟩
  | terminator => exact absurd rfl h
  | main =>
    obtain ⟨-, hLock, -, -, -, hTerminator, -, -, -, hHandled⟩ := s.mainEffect_frame
    exact ⟨hTerminator, hLock, hHandled⟩
  | alive k =>
    obtain ⟨-, hLock, -, -, -, hTerminator, -, -, -, hHandled⟩ := s.aliveEffect_frame k
    exact ⟨hTerminator, hLock, hHandled⟩
  | request | respond | killAll | exit => exact ⟨rfl, rfl, rfl⟩

theorem activator_effect {e : LifecycleEvent} (h : e.killer ≠ some .activator) :
    (e.effect s).activator = s.activator := by
  cases e with
  | request | activator | respond => exact absurd rfl h
  | kill x =>
    cases hCall : s.kills x with
    | none => rw [effect_kill_none hCall]
    | some call =>
      obtain ⟨-, -, -, hActivator, -⟩ := s.killEffect_frame x call
      rw [effect_kill hCall, hActivator]
  | terminator =>
    obtain ⟨-, -, hActivator, -⟩ := s.terminatorEffect_frame
    exact hActivator
  | main =>
    obtain ⟨-, -, -, -, hActivator, -⟩ := s.mainEffect_frame
    exact hActivator
  | alive j =>
    obtain ⟨-, -, -, -, hActivator, -⟩ := s.aliveEffect_frame j
    exact hActivator
  | killAll | exit => rfl

theorem main_effect {e : LifecycleEvent} (h : e.killer ≠ some .main) : (e.effect s).main = s.main := by
  cases e with
  | killAll | main => exact absurd rfl h
  | activator ok =>
    obtain ⟨-, -, -, -, hMain, -⟩ := s.activatorEffect_frame ok
    exact hMain
  | kill x =>
    cases hCall : s.kills x with
    | none => rw [effect_kill_none hCall]
    | some call =>
      obtain ⟨-, -, -, -, -, hMain, -⟩ := s.killEffect_frame x call
      rw [effect_kill hCall, hMain]
  | terminator =>
    obtain ⟨-, -, -, hMain, -⟩ := s.terminatorEffect_frame
    exact hMain
  | alive j =>
    obtain ⟨-, -, -, -, -, -, hMain, -⟩ := s.aliveEffect_frame j
    exact hMain
  | request | respond | exit => rfl

theorem killLock_effect {e : LifecycleEvent} (h : ∀ x, e ≠ .kill x) :
    (e.effect s).killLock = s.killLock := by
  cases e with
  | kill x => exact absurd rfl (h x)
  | activator ok =>
    obtain ⟨hLock, -⟩ := s.activatorEffect_frame ok
    exact hLock
  | terminator =>
    obtain ⟨hLock, -⟩ := s.terminatorEffect_frame
    exact hLock
  | main =>
    obtain ⟨hLock, -⟩ := s.mainEffect_frame
    exact hLock
  | alive k =>
    obtain ⟨hLock, -⟩ := s.aliveEffect_frame k
    exact hLock
  | request | respond | killAll | exit => rfl

theorem count_le_effect (s : ProxyLifecycle) (e : LifecycleEvent) : s.count ≤ (e.effect s).count := by
  cases e with
  | activator ok =>
    simp only [LifecycleEvent.effect, activatorEffect]
    cases s.activator with
    | subscribeCreating proxyName => exact Nat.le_succ _
    | checking proxyName =>
      dsimp only
      split <;> exact Nat.le_refl _
    | _ => exact Nat.le_refl _
  | kill x =>
    cases hCall : s.kills x with
    | none => rw [effect_kill_none hCall]
    | some call =>
      obtain ⟨-, -, -, -, -, -, -, hCount, -⟩ := s.killEffect_frame x call
      rw [effect_kill hCall, hCount]
  | terminator =>
    obtain ⟨-, -, -, -, -, hCount, -⟩ := s.terminatorEffect_frame
    exact Nat.le_of_eq hCount.symm
  | main =>
    obtain ⟨-, -, -, -, -, -, -, hCount, -⟩ := s.mainEffect_frame
    exact Nat.le_of_eq hCount.symm
  | alive k =>
    obtain ⟨-, -, -, -, -, -, -, hCount, -⟩ := s.aliveEffect_frame k
    exact Nat.le_of_eq hCount.symm
  | request | respond | killAll | exit => exact Nat.le_refl _

theorem proxyName_effect {k : Nat} (h : k < s.count) (e : LifecycleEvent) :
    (e.effect s).proxyName k = s.proxyName k := by
  cases e with
  | activator ok =>
    simp only [LifecycleEvent.effect, activatorEffect]
    cases s.activator with
    | subscribeCreating proxyName => exact Function.update_of_ne (Nat.ne_of_lt h) ..
    | checking proxyName =>
      dsimp only
      split <;> rfl
    | _ => rfl
  | kill x =>
    cases hCall : s.kills x with
    | none => rw [effect_kill_none hCall]
    | some call =>
      obtain ⟨-, -, -, -, -, -, -, -, hName, -⟩ := s.killEffect_frame x call
      rw [effect_kill hCall, hName]
  | terminator =>
    obtain ⟨-, -, -, -, -, -, hName⟩ := s.terminatorEffect_frame
    exact congrFun hName k
  | main =>
    obtain ⟨-, -, -, -, -, -, -, -, hName, -⟩ := s.mainEffect_frame
    exact congrFun hName k
  | alive j =>
    obtain ⟨-, -, -, -, -, -, -, -, hName, -⟩ := s.aliveEffect_frame j
    exact congrFun hName k
  | request | respond | killAll | exit => rfl

theorem mem_queue_effect {e : LifecycleEvent} {entry : ProxyName × Nat} (h : entry ∈ (e.effect s).queue) :
    entry ∈ s.queue ∨ e = .alive entry.2 ∧ s.alive entry.2 = .awaking ∧ entry.1 = s.proxyName entry.2 := by
  cases e with
  | activator ok =>
    obtain ⟨-, -, hQueue, -⟩ := s.activatorEffect_frame ok
    exact .inl (hQueue ▸ h)
  | kill x =>
    cases hCall : s.kills x with
    | none =>
      exact .inl (effect_kill_none hCall ▸ h)
    | some call =>
      obtain ⟨-, -, hQueue, -⟩ := s.killEffect_frame x call
      rw [effect_kill hCall, hQueue] at h
      exact .inl h
  | terminator =>
    simp only [LifecycleEvent.effect, terminatorEffect] at h
    cases hPc : s.terminator with
    | draining =>
      cases hQueue : s.queue with
      | nil =>
        simp only [hPc, hQueue] at h
        exact absurd h List.not_mem_nil
      | cons first rest =>
        simp only [hPc, hQueue] at h
        exact .inl (List.mem_cons_of_mem _ h)
    | _ =>
      simp only [hPc] at h
      exact .inl h
  | main =>
    obtain ⟨-, -, hQueue, -⟩ := s.mainEffect_frame
    exact .inl (hQueue ▸ h)
  | alive k =>
    simp only [LifecycleEvent.effect, aliveEffect] at h
    cases hPc : s.alive k with
    | awaking =>
      simp only [hPc] at h
      rcases List.mem_append.mp h with hOld | hNew
      · exact .inl hOld
      · obtain rfl := List.mem_singleton.mp hNew
        exact .inr ⟨rfl, hPc, rfl⟩
    | _ =>
      simp only [hPc] at h
      exact .inl h
  | request | respond | killAll | exit => exact .inl h

theorem creating_effect {e : LifecycleEvent} {k : Nat} (h : (e.effect s).activator.creating = some k) :
    s.activator.creating = some k ∨ k = s.count := by
  cases e with
  | request => cases h
  | activator ok =>
    simp only [LifecycleEvent.effect, activatorEffect] at h
    cases hPc : s.activator with
    | subscribeCreating proxyName =>
      simp only [hPc] at h
      cases ok <;> cases h
      exact .inr rfl
    | channelCreating j =>
      simp only [hPc] at h
      cases ok <;> cases h
      exact .inl rfl
    | checking proxyName | killing proxyName =>
      simp only [hPc] at h
      split at h <;> cases h
    | joining kind j last ending =>
      simp only [hPc] at h
      cases hNext : (if kind = last then none else kind.next) <;> simp only [hNext] at h
      · cases ending <;> cases h
      · cases h
    | setting kind j =>
      simp only [hPc] at h
      cases hNext : kind.next <;> simp only [hNext] at h <;> cases h
    | _ =>
      simp only [hPc] at h
      cases h
  | respond outcome =>
    simp only [LifecycleEvent.effect, respond] at h
    cases hPc : s.activator with
    | dying | responding =>
      simp only [hPc] at h
      split at h <;> cases h
    | _ =>
      simp only [hPc] at h
      exact .inl h
  | kill | terminator | killAll | main | alive | exit =>
    rw [activator_effect (by nofun)] at h
    exact .inl h

end ProxyLifecycle

end Gonggo
