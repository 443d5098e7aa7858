import Gonggo.LifecycleInvariants

/-! # The calls of `proxy_thread_kill`

Only one call is past its lock at a time. What it has found in a table stays there until it removes
it, and a name that the activator has killed stays out of the tables until the activator sets it.
-/

namespace Gonggo

def ThreadKind.index : ThreadKind → Nat
  | .subscribe => 0
  | .channel => 1
  | .alive => 2

namespace KillPc

/-- The call holds `proxy_thread_kill_lock`. -/
def inside : KillPc → Bool
  | .locking => false
  | _ => true

/-- The entries in the hands of the call. -/
def found : KillPc → Found
  | .getting _ found | .joining _ found | .removing _ found => found
  | .locking | .unlocking => fun _ => none

/-- The call has not yet looked the table up. -/
def before (kind : ThreadKind) : KillPc → Bool
  | .locking => true
  | .getting next _ => decide (next.index ≤ kind.index)
  | _ => false

/-- The entry that the call has found and not yet removed. -/
def holds (kind : ThreadKind) : KillPc → Option Nat
  | .getting _ found => found kind
  | .joining next found | .removing next found =>
      if next.index ≤ kind.index then found kind else none
  | .locking | .unlocking => none

/-- The call is still to look the table up, or has the entry in hand. -/
def Catches (pc : KillPc) (kind : ThreadKind) (k : Nat) : Prop :=
  pc.before kind = true ∨ pc.holds kind = some k

/-- The call leaves nothing in the table under its name. -/
def clears (kind : ThreadKind) (pc : KillPc) : Bool := !pc.before kind && (pc.holds kind).isNone

theorem inside_afterGetting (kind : ThreadKind) (found : Found) :
    (afterGetting kind found).inside = true := by
  cases kind <;> rfl

theorem inside_afterJoining (kind : ThreadKind) (found : Found) :
    (afterJoining kind found).inside = true := by
  cases kind <;> rfl

theorem found_afterGetting (kind : ThreadKind) (found : Found) :
    (afterGetting kind found).found = found := by
  cases kind <;> rfl

theorem found_afterJoining {kind other : ThreadKind} {found : Found} {j : Nat}
    (h : (afterJoining kind found).found other = some j) : found other = some j := by
  cases kind with
  | subscribe | channel => exact h
  | alive => cases h

theorem before_afterGetting {kind other : ThreadKind} {found : Found}
    (h : (afterGetting kind found).before other = true) : kind.index < other.index := by
  cases kind with
  | subscribe | channel => exact of_decide_eq_true h
  | alive => cases h

theorem before_afterJoining (kind other : ThreadKind) (found : Found) :
    (afterJoining kind found).before other = false := by
  cases kind <;> rfl

theorem holds_joining_self (kind : ThreadKind) (found : Found) :
    (joining kind found).holds kind = found kind :=
  if_pos (Nat.le_refl _)

theorem holds_removing_self (kind : ThreadKind) (found : Found) :
    (removing kind found).holds kind = found kind :=
  if_pos (Nat.le_refl _)

theorem holds_afterGetting (kind other : ThreadKind) (found : Found) :
    (afterGetting kind found).holds other = found other := by
  cases kind with
  | subscribe | channel => rfl
  | alive => cases other <;> rfl

theorem holds_afterJoining {kind other : ThreadKind} {found : Found} {k : Nat}
    (h : (afterJoining kind found).holds other = some k) :
    kind.index < other.index ∧ found other = some k := by
  cases kind with
  | subscribe | channel => exact Option.ite_none_right_eq_some.mp h
  | alive => cases h

theorem before_afterGetting_of_ne {kind other : ThreadKind} {found found' : Found} (hOther : other ≠ kind)
    (h : (getting kind found).before other = true) : (afterGetting kind found').before other = true := by
  have hLe : kind.index ≤ other.index := of_decide_eq_true h
  cases kind <;> cases other <;>
    first | rfl | exact absurd rfl hOther | exact absurd hLe (by decide)

theorem holds_afterJoining_of_ne {kind other : ThreadKind} {found : Found} {k : Nat} (hOther : other ≠ kind)
    (h : (joining kind found).holds other = some k) : (afterJoining kind found).holds other = some k := by
  obtain ⟨hLe, hFound⟩ := Option.ite_none_right_eq_some.mp h
  cases kind <;> cases other <;>
    first | exact hFound | exact absurd rfl hOther | exact absurd hLe (by decide)

theorem not_clears_of_catches {pc : KillPc} {kind : ThreadKind} {k : Nat} (h : pc.Catches kind k) :
    pc.clears kind = false := by
  rcases h with hBefore | hHolds
  · simp [clears, hBefore]
  · simp [clears, hHolds]

theorem exists_catches_of_not_clears {pc : KillPc} {kind : ThreadKind} (h : pc.clears kind = false) :
    pc.before kind = true ∨ ∃ k, pc.holds kind = some k := by
  cases hBefore : pc.before kind with
  | true => exact .inl rfl
  | false => exact .inr (Option.isSome_iff_exists.mp (by simpa [clears, hBefore] using h))

theorem inside_of_holds {pc : KillPc} {kind : ThreadKind} {k : Nat} (h : pc.holds kind = some k) :
    pc.inside = true := by
  cases pc with
  | locking => cases h
  | getting | joining | removing | unlocking => rfl

end KillPc

namespace ProxyLifecycle

variable {s : ProxyLifecycle}

/-! ## What a call finds -/

theorem found_killEffect {x : Killer} {call call' : KillCall} {kind : ThreadKind} {j : Nat}
    (h : (s.killEffect x call).kills x = some call') (hj : call'.pc.found kind = some j) :
    call.pc.found kind = some j ∨
      call.pc.before kind = true ∧ (s.tables kind).lookup call.proxyName = some j := by
  unfold killEffect at h
  cases hPc : call.pc with
  | locking =>
    simp only [hPc, kills_setKill_self, Option.some.injEq] at h
    subst h
    cases hj
  | getting next found =>
    simp only [hPc, kills_setKill_self, Option.some.injEq] at h
    subst h
    rw [KillPc.found_afterGetting] at hj
    by_cases hKind : kind = next
    · subst hKind
      rw [Function.update_self] at hj
      exact .inr ⟨decide_eq_true (Nat.le_refl _), hj⟩
    · rw [Function.update_of_ne hKind] at hj
      exact .inl hj
  | joining next found =>
    simp only [hPc, kills_setKill_self, Option.some.injEq] at h
    subst h
    refine .inl ?_
    dsimp only at hj
    split at hj
    · exact hj
    · exact KillPc.found_afterJoining hj
  | removing next found =>
    simp only [hPc, kills_setKill_self, Option.some.injEq] at h
    subst h
    exact .inl (KillPc.found_afterJoining hj)
  | unlocking =>
    simp only [hPc, kills_setKill_self] at h
    cases h

theorem before_killEffect {x : Killer} {call call' : KillCall} {kind : ThreadKind}
    (h : (s.killEffect x call).kills x = some call') (hBefore : call'.pc.before kind = true) :
    call.pc.before kind = true := by
  unfold killEffect at h
  cases hPc : call.pc with
  | locking => rfl
  | getting next found =>
    simp only [hPc, kills_setKill_self, Option.some.injEq] at h
    subst h
    exact decide_eq_true (Nat.le_of_lt (KillPc.before_afterGetting hBefore))
  | joining next found =>
    simp only [hPc, kills_setKill_self, Option.some.injEq] at h
    subst h
    dsimp only at hBefore
    split at hBefore
    · cases hBefore
    · rw [KillPc.before_afterJoining] at hBefore
      cases hBefore
  | removing next found =>
    simp only [hPc, kills_setKill_self, Option.some.injEq] at h
    subst h
    rw [KillPc.before_afterJoining] at hBefore
    cases hBefore
  | unlocking =>
    simp only [hPc, kills_setKill_self] at h
    cases h

theorem holds_killEffect {x : Killer} {call call' : KillCall} {kind : ThreadKind} {k : Nat}
    (h : (s.killEffect x call).kills x = some call') (hk : call'.pc.holds kind = some k) :
    (call.pc.holds kind = some k ∨
      call.pc.before kind = true ∧ (s.tables kind).lookup call.proxyName = some k) ∧
      (s.killEffect x call).tables kind = s.tables kind := by
  unfold killEffect at h ⊢
  cases hPc : call.pc with
  | locking =>
    simp only [hPc, kills_setKill_self, Option.some.injEq] at h
    subst h
    cases hk
  | getting next found =>
    simp only [hPc, kills_setKill_self, Option.some.injEq] at h
    subst h
    refine ⟨?_, rfl⟩
    rw [KillPc.holds_afterGetting] at hk
    by_cases hKind : kind = next
    · subst hKind
      rw [Function.update_self] at hk
      exact .inr ⟨decide_eq_true (Nat.le_refl _), hk⟩
    · rw [Function.update_of_ne hKind] at hk
      exact .inl hk
  | joining next found =>
    simp only [hPc, kills_setKill_self, Option.some.injEq] at h
    subst h
    refine ⟨.inl ?_, rfl⟩
    dsimp only at hk
    split at hk
    · exact hk
    · obtain ⟨hLater, hFound⟩ := KillPc.holds_afterJoining hk
      exact (if_pos (Nat.le_of_lt hLater)).trans hFound
  | removing next found =>
    simp only [hPc, kills_setKill_self, Option.some.injEq] at h
    subst h
    obtain ⟨hLater, hFound⟩ := KillPc.holds_afterJoining hk
    refine ⟨.inl ((if_pos (Nat.le_of_lt hLater)).trans hFound), ?_⟩
    have hOther : kind ≠ next := fun hEq => Nat.lt_irrefl _ (hEq ▸ hLater)
    exact tables_tableSet_ne s hOther _
  | unlocking =>
    simp only [hPc, kills_setKill_self] at h
    cases h

/-- A call keeps in hand, or is still to find, what stays in the table under its name. -/
theorem catches_killEffect {x : Killer} {call : KillCall} {kind : ThreadKind} {k : Nat}
    (h : call.pc.Catches kind k)
    (hk : ((s.killEffect x call).tables kind).lookup call.proxyName = some k) :
    ∃ call', (s.killEffect x call).kills x = some call' ∧ call'.pc.Catches kind k := by
  unfold KillPc.Catches at h
  unfold killEffect at hk ⊢
  cases hPc : call.pc with
  | locking =>
    refine ⟨_, kills_setKill_self .., .inl ?_⟩
    cases kind <;> rfl
  | getting next found =>
    simp only [hPc] at h hk
    refine ⟨_, kills_setKill_self .., ?_⟩
    by_cases hKind : kind = next
    · subst hKind
      exact .inr ((KillPc.holds_afterGetting ..).trans ((Function.update_self ..).trans hk))
    · refine h.imp (KillPc.before_afterGetting_of_ne hKind) fun hHolds => ?_
      rw [KillPc.holds_afterGetting, Function.update_of_ne hKind]
      exact hHolds
  | joining next found =>
    simp only [hPc] at h
    have hHolds := h.resolve_left Bool.false_ne_true
    refine ⟨_, kills_setKill_self .., .inr ?_⟩
    dsimp only
    split
    · exact hHolds
    · rename_i hNone
      refine KillPc.holds_afterJoining_of_ne (fun hKind => hNone ?_) hHolds
      rw [← hKind, (Option.ite_none_right_eq_some.mp hHolds).2]
      rfl
  | removing next found =>
    simp only [hPc] at h hk
    have hHolds := h.resolve_left Bool.false_ne_true
    refine ⟨_, kills_setKill_self .., .inr (KillPc.holds_afterJoining_of_ne (fun hKind => ?_) hHolds)⟩
    subst hKind
    change ((s.tableSet kind ((s.tables kind).remove call.proxyName)).tables kind).lookup
      call.proxyName = some k at hk
    rw [tables_tableSet_self, HashTable.lookup_remove_self] at hk
    cases hk
  | unlocking =>
    simp only [hPc] at h
    rcases h with hBefore | hHolds
    · cases hBefore
    · cases hHolds

/-! ## One call at a time -/

theorem lookup_killEffect_or {x : Killer} {call : KillCall} {kind : ThreadKind} {proxyName : ProxyName}
    {k : Nat} (h : (s.tables kind).lookup proxyName = some k) :
    ((s.killEffect x call).tables kind).lookup proxyName = some k ∨
      call.proxyName = proxyName ∧ ∃ found, call.pc = .removing kind found := by
  unfold killEffect
  cases hPc : call.pc with
  | removing next found =>
    by_cases hKind : kind = next
    · subst hKind
      by_cases hName : proxyName = call.proxyName
      · exact .inr ⟨hName.symm, found, rfl⟩
      · refine .inl ?_
        change ((s.tableSet kind ((s.tables kind).remove call.proxyName)).tables kind).lookup
          proxyName = some k
        rw [tables_tableSet_self, HashTable.lookup_remove_ne _ hName]
        exact h
    · refine .inl ?_
      change ((s.tableSet next ((s.tables next).remove call.proxyName)).tables kind).lookup
        proxyName = some k
      rw [tables_tableSet_ne _ hKind]
      exact h
  | locking | getting | joining | unlocking => exact .inl h

theorem lookup_effect_or {e : LifecycleEvent} {kind : ThreadKind} {proxyName : ProxyName} {k : Nat}
    (h : (s.tables kind).lookup proxyName = some k) :
    ((e.effect s).tables kind).lookup proxyName = some k ∨
      (∃ x call found, e = .kill x ∧ s.kills x = some call ∧ call.proxyName = proxyName ∧
        call.pc = .removing kind found) ∨
      ∃ ok j, e = .activator ok ∧ s.activator = .setting kind j ∧ s.proxyName j = proxyName := by
  cases e with
  | kill x =>
    cases hCall : s.kills x with
    | none =>
      rw [effect_kill_none hCall]
      exact .inl h
    | some call =>
      rw [effect_kill hCall]
      refine (lookup_killEffect_or h).imp_right fun hRemoved => ?_
      obtain ⟨hName, found, hPc⟩ := hRemoved
      exact .inl ⟨x, call, found, rfl, hCall, hName, hPc⟩
  | activator ok =>
    simp only [LifecycleEvent.effect, activatorEffect]
    cases hPc : s.activator with
    | setting next j =>
      by_cases hKind : kind = next
      · subst hKind
        by_cases hName : s.proxyName j = proxyName
        · exact .inr (.inr ⟨ok, j, rfl, rfl, hName⟩)
        · refine .inl ?_
          dsimp only
          rw [tables_tableSet_self, HashTable.lookup_insert_ne _ _ (Ne.symm hName),
            HashTable.lookup_remove_ne _ (Ne.symm hName)]
          exact h
      · refine .inl ?_
        dsimp only
        rw [tables_tableSet_ne _ hKind]
        exact h
    | checking name =>
      refine .inl ?_
      dsimp only
      split <;> exact h
    | _ => exact .inl h
  | terminator =>
    obtain ⟨-, hTables, -⟩ := s.terminatorEffect_frame
    rw [LifecycleEvent.effect, hTables]
    exact .inl h
  | main =>
    obtain ⟨-, -, -, hTables, -⟩ := s.mainEffect_frame
    rw [LifecycleEvent.effect, hTables]
    exact .inl h
  | alive j =>
    obtain ⟨-, -, hTables, -⟩ := s.aliveEffect_frame j
    rw [LifecycleEvent.effect, hTables]
    exact .inl h
  | request | respond | killAll | exit => exact .inl h

/-- The name whose entry the activator has removed and not yet set. -/
def cleared (s : ProxyLifecycle) (kind : ThreadKind) : Option ProxyName :=
  match s.activator with
  | .killing proxyName =>
      if (s.kills .activator).all fun call => call.pc.clears kind then some proxyName else none
  | .subscribeCreating proxyName => some proxyName
  | .channelCreating k | .aliveCreating k | .responding k _ _ | .stopping k _ _ | .joining _ k _ _ =>
      some (s.proxyName k)
  | .setting next k => if next.index ≤ kind.index then some (s.proxyName k) else none
  | .idle | .checking _ | .dying | .waking _ | .notifying _ | .ended => none

theorem cleared_congr {s' : ProxyLifecycle} (kind : ThreadKind) (hActivator : s'.activator = s.activator)
    (hKills : s'.kills .activator = s.kills .activator)
    (hName : ∀ k, s.activator.number = some k → s'.proxyName k = s.proxyName k) :
    s'.cleared kind = s.cleared kind := by
  unfold cleared
  rw [hActivator]
  cases hPc : s.activator with
  | killing proxyName => simp only [hKills]
  | channelCreating k | aliveCreating k | responding k | stopping k | joining next k | setting next k =>
    simp only [hName k (by rw [hPc]; rfl)]
  | _ => rfl

theorem cleared_activatorEffect {ok : Bool} {kind : ThreadKind} {proxyName : ProxyName}
    (hEnabled : s.activatorEnabled = true)
    (h : (s.activatorEffect ok).cleared kind = some proxyName) : s.cleared kind = some proxyName := by
  unfold cleared activatorEffect at h
  unfold cleared
  cases hPc : s.activator with
  | checking name =>
    simp only [hPc] at h
    cases hZombie : s.proxyThreadZombie name with
    | true =>
      simp only [hZombie, if_true] at h
      cases h
    | false =>
      simp only [hZombie, Bool.false_eq_true, if_false, kills_setKill_self, Option.all_some] at h
      exact h
  | killing name =>
    have hOutside : s.kills .activator = none := by
      simpa [activatorEnabled, hPc] using hEnabled
    simp only [hPc] at h
    generalize (ok && s.segmentsLinked name) = opened at h
    cases opened
    · cases h
    · simp only [hOutside, Option.all_none, if_true]
      exact h
  | subscribeCreating name =>
    simp only [hPc] at h
    cases ok <;>
    · simp only [Function.update_self, if_true, if_false, Bool.false_eq_true] at h
      exact h
  | channelCreating k | aliveCreating k =>
    simp only [hPc] at h
    cases ok <;> exact h
  | joining next k last ending =>
    simp only [hPc] at h
    cases hNext : (if next = last then none else next.next) <;> simp only [hNext] at h
    · cases ending <;> cases h
    · exact h
  | setting next k =>
    simp only [hPc] at h
    cases hNext : next.next with
    | none =>
      simp only [hNext] at h
      cases h
    | some later =>
      simp only [hNext] at h
      obtain ⟨hLe, hName⟩ := Option.ite_none_right_eq_some.mp h
      have hBefore : next.index ≤ later.index := by
        cases next <;> cases hNext <;> decide
      exact (if_pos (Nat.le_trans hBefore hLe)).trans (congrArg some (Option.some.inj hName))
  | stopping k last ending =>
    simp only [hPc] at h
    exact h
  | waking k | notifying k =>
    simp only [hPc] at h
    cases h
  | idle | dying | responding | ended => simp [activatorEnabled, hPc] at hEnabled

theorem cleared_respond {outcome : RespondOutcome} {kind : ThreadKind} {proxyName : ProxyName}
    (h : (s.respond outcome).cleared kind = some proxyName) : s.cleared kind = some proxyName := by
  unfold cleared respond at h
  unfold cleared
  cases hPc : s.activator with
  | dying =>
    by_cases hEnding : outcome = .terminated
    · simp only [hPc, if_pos hEnding] at h
      cases h
    · simp only [hPc, if_neg hEnding] at h
      cases h
  | responding k last created =>
    by_cases hDone : created = true ∧ outcome = .done
    · simp only [hPc, if_pos hDone] at h
      exact (Option.ite_none_right_eq_some.mp h).2
    · simp only [hPc, if_neg hDone] at h
      exact h
  | _ =>
    simp only [hPc] at h
    exact h

theorem cleared_effect (hNumbered : s.Numbered) {e : LifecycleEvent} (hGuard : e.guard s)
    (hKill : e ≠ .kill .activator) {kind : ThreadKind} {proxyName : ProxyName}
    (h : (e.effect s).cleared kind = some proxyName) : s.cleared kind = some proxyName := by
  by_cases hKiller : e.killer = some .activator
  · cases e with
    | request => cases h
    | activator ok => exact cleared_activatorEffect hGuard h
    | respond outcome => exact cleared_respond h
    | kill | terminator | killAll | main | alive | exit => cases hKiller
  · rwa [cleared_congr kind (activator_effect hKiller) (kills_effect_of_ne hKiller hKill)
      fun k hk => proxyName_effect (hNumbered.number k hk) e] at h

structure InTurn (s : ProxyLifecycle) : Prop where
  exclusive : ∀ x call, s.kills x = some call → call.pc.inside = true → s.killLock = some x
  held : ∀ x call kind k, s.kills x = some call → call.pc.holds kind = some k →
    (s.tables kind).lookup call.proxyName = some k
  vacant : ∀ kind proxyName, s.cleared kind = some proxyName → (s.tables kind).lookup proxyName = none

namespace InTurn

theorem started : ProxyLifecycle.started.InTurn where
  exclusive _ _ h := nomatch h
  held _ _ _ _ h := nomatch h
  vacant _ _ h := nomatch h

/-- Two calls past the lock are one. -/
theorem unique (h : s.InTurn) {x y : Killer} {call call' : KillCall} (hx : s.kills x = some call)
    (hy : s.kills y = some call') (hInside : call.pc.inside = true) (hInside' : call'.pc.inside = true) :
    x = y := by
  have hOwner := h.exclusive x call hx hInside
  rw [h.exclusive y call' hy hInside'] at hOwner
  exact (Option.some.inj hOwner).symm

/-- The entry that the activator sets is of a name that is in no table from there on. -/
theorem vacant_setting (h : s.InTurn) {next kind : ThreadKind} {k : Nat}
    (hPc : s.activator = .setting next k) (hLe : next.index ≤ kind.index) :
    (s.tables kind).lookup (s.proxyName k) = none := by
  refine h.vacant kind _ ?_
  simp only [cleared, hPc, if_pos hLe]

theorem killLock_effect (h : s.InTurn) {e : LifecycleEvent} (hGuard : e.guard s) {x : Killer}
    {call : KillCall} (hCall : s.kills x = some call) (hInside : call.pc.inside = true)
    (hOther : e ≠ .kill x) : (e.effect s).killLock = some x := by
  have hLock := h.exclusive x call hCall hInside
  by_cases hKill : ∃ y, e = .kill y
  · obtain ⟨y, rfl⟩ := hKill
    obtain ⟨other, hy, hEnabled⟩ := exists_of_guard_kill hGuard
    rw [effect_kill hy]
    unfold killEffect
    cases hPc : other.pc with
    | locking =>
      simp only [killEnabled, hPc, hLock] at hEnabled
      cases hEnabled
    | unlocking =>
      refine absurd ?_ hOther
      rw [h.unique hCall hy hInside (by rw [hPc]; rfl)]
    | getting | joining | removing => exact hLock
  · rw [ProxyLifecycle.killLock_effect fun y hEq => hKill ⟨y, hEq⟩]
    exact hLock

theorem exclusive_effect (h : s.InTurn) {e : LifecycleEvent} (hGuard : e.guard s) {x : Killer}
    {call : KillCall} (hCall : (e.effect s).kills x = some call) (hInside : call.pc.inside = true) :
    (e.effect s).killLock = some x := by
  by_cases hKill : e = .kill x
  · subst hKill
    obtain ⟨old, hOld, -⟩ := exists_of_guard_kill hGuard
    rw [effect_kill hOld] at hCall ⊢
    have hWas := h.exclusive x old hOld
    unfold killEffect at hCall ⊢
    cases hPc : old.pc with
    | locking => rfl
    | getting | joining | removing => exact hWas (by rw [hPc]; rfl)
    | unlocking =>
      simp only [hPc, kills_setKill_self] at hCall
      cases hCall
  · rcases kills_effect hGuard hCall with hOld | ⟨hPc, -⟩ | ⟨old, hEq, -⟩
    · exact h.killLock_effect hGuard hOld hInside hKill
    · rw [hPc] at hInside
      cases hInside
    · exact absurd hEq hKill

theorem held_lookup (h : s.InTurn) {e : LifecycleEvent} {x : Killer} {call : KillCall}
    {kind : ThreadKind} {k : Nat} (hCall : s.kills x = some call) (hk : call.pc.holds kind = some k)
    (hOther : e ≠ .kill x) : ((e.effect s).tables kind).lookup call.proxyName = some k := by
  have hEntry := h.held x call kind k hCall hk
  rcases lookup_effect_or (e := e) hEntry with
    hStays | ⟨y, other, found, rfl, hy, -, hPc⟩ | ⟨ok, j, rfl, hSetting, hName⟩
  · exact hStays
  · refine absurd ?_ hOther
    rw [h.unique hCall hy (KillPc.inside_of_holds hk) (by rw [hPc]; rfl)]
  · rw [← hName, h.vacant_setting hSetting (Nat.le_refl _)] at hEntry
    cases hEntry

theorem held_effect (h : s.InTurn) {e : LifecycleEvent} (hGuard : e.guard s) {x : Killer}
    {call : KillCall} {kind : ThreadKind} {k : Nat} (hCall : (e.effect s).kills x = some call)
    (hk : call.pc.holds kind = some k) : ((e.effect s).tables kind).lookup call.proxyName = some k := by
  by_cases hKill : e = .kill x
  · subst hKill
    obtain ⟨old, hOld, -⟩ := exists_of_guard_kill hGuard
    rw [effect_kill hOld] at hCall ⊢
    obtain ⟨hWas, hTable⟩ := holds_killEffect hCall hk
    rw [hTable, proxyName_killEffect hCall]
    rcases hWas with hHolds | ⟨-, hFound⟩
    · exact h.held x old kind k hOld hHolds
    · exact hFound
  · rcases kills_effect hGuard hCall with hOld | ⟨hPc, -⟩ | ⟨old, hEq, -⟩
    · exact h.held_lookup hOld hk hKill
    · rw [hPc] at hk
      cases hk
    · exact absurd hEq hKill

theorem vacant_killEffect (h : s.InTurn) (hCalling : s.Calling) {call : KillCall}
    (hCall : s.kills .activator = some call) {kind : ThreadKind} {proxyName : ProxyName}
    (hCleared : (s.killEffect .activator call).cleared kind = some proxyName) :
    ((s.killEffect .activator call).tables kind).lookup proxyName = none := by
  have hAt : s.activator = .killing call.proxyName := hCalling .activator call hCall
  obtain ⟨-, -, -, hActivator, -⟩ := s.killEffect_frame .activator call
  rw [cleared, hActivator, hAt] at hCleared
  obtain ⟨hAll, hName⟩ := Option.ite_none_right_eq_some.mp hCleared
  obtain rfl := Option.some.inj hName
  cases hEntry : ((s.killEffect .activator call).tables kind).lookup call.proxyName with
  | none => rfl
  | some j =>
    have hOld := lookup_killEffect hEntry
    cases hClears : call.pc.clears kind with
    | true =>
      have hWas : s.cleared kind = some call.proxyName := by
        simp only [cleared, hAt, hCall, Option.all_some, hClears, if_true]
      rw [h.vacant kind _ hWas] at hOld
      cases hOld
    | false =>
      -- an entry that stays is still in the hands of the call
      have hCatches : call.pc.Catches kind j := by
        refine (KillPc.exists_catches_of_not_clears hClears).imp_right fun hHolds => ?_
        obtain ⟨i, hi⟩ := hHolds
        rwa [← Option.some.inj ((h.held .activator call kind i hCall hi).symm.trans hOld)]
      obtain ⟨call', hCall', hStill⟩ := catches_killEffect hCatches hEntry
      rw [hCall', Option.all_some, KillPc.not_clears_of_catches hStill] at hAll
      cases hAll

theorem vacant_effect (h : s.InTurn) (hNumbered : s.Numbered) (hCalling : s.Calling)
    {e : LifecycleEvent} (hGuard : e.guard s) {kind : ThreadKind} {proxyName : ProxyName}
    (hCleared : (e.effect s).cleared kind = some proxyName) :
    ((e.effect s).tables kind).lookup proxyName = none := by
  by_cases hKill : e = .kill .activator
  · subst hKill
    obtain ⟨call, hCall, -⟩ := exists_of_guard_kill hGuard
    rw [effect_kill hCall] at hCleared ⊢
    exact h.vacant_killEffect hCalling hCall hCleared
  · have hVacant := h.vacant kind proxyName (cleared_effect hNumbered hGuard hKill hCleared)
    cases hEntry : ((e.effect s).tables kind).lookup proxyName with
    | none => rfl
    | some j =>
      rcases lookup_effect hEntry with hOld | ⟨⟨ok, rfl⟩, hSetting, -⟩
      · rw [hVacant] at hOld
        cases hOld
      · -- the name that is set in the table is cleared there no longer
        simp only [cleared, LifecycleEvent.effect, activatorEffect, hSetting] at hCleared
        cases kind <;> cases hCleared

theorem effect (h : s.InTurn) (hNumbered : s.Numbered) (hCalling : s.Calling) (e : LifecycleEvent)
    (hGuard : e.guard s) : (e.effect s).InTurn where
  exclusive _ _ hCall hInside := h.exclusive_effect hGuard hCall hInside
  held _ _ _ _ hCall hk := h.held_effect hGuard hCall hk
  vacant _ _ hCleared := h.vacant_effect hNumbered hCalling hGuard hCleared

theorem of_reachable {cond : ProxyLifecycle → LifecycleEvent → Prop}
    (h : proxyLifecycleSystem.ReachableWhen cond s) : s.InTurn := by
  apply h.invariant_with fun s hReach => And.intro (numbered_of_reachable hReach) (calling_of_reachable hReach)
  · rintro s rfl
    exact started
  · exact fun s e hBase hInTurn hGuard _ => hInTurn.effect hBase.1 hBase.2 e hGuard

end InTurn

end ProxyLifecycle

end Gonggo
