import Gonggo.KillCalls

/-! # Events of the terminator and the incarnations they hit

An event is queued by the alive thread of one incarnation and carries no more than the name of the
proxy. What the terminator finds under the name decides which incarnation it hits, and what is
registered under the name after it has looked stays there.
-/

namespace Gonggo

namespace KillPc

/-- The call removes what the table holds. -/
def removes (kind : ThreadKind) : KillPc → Bool
  | .locking => true
  | .getting next found => decide (next.index ≤ kind.index) || (found kind).isSome
  | .joining next found | .removing next found =>
      decide (next.index ≤ kind.index) && (found kind).isSome
  | .unlocking => false

theorem removes_of_before {kind : ThreadKind} {pc : KillPc} (h : pc.before kind = true) :
    pc.removes kind = true := by
  cases pc with
  | locking => rfl
  | getting next found => exact Bool.or_eq_true_iff.mpr (.inl h)
  | joining | removing | unlocking => cases h

theorem removes_afterGetting {kind next : ThreadKind} {found : Found} {hit : Option Nat}
    (h : (getting next found).removes kind = true) (hHit : kind = next → hit.isSome = true) :
    (afterGetting next (Function.update found next hit)).removes kind = true := by
  by_cases hKind : kind = next
  · subst hKind
    have hSome := hHit rfl
    cases kind <;> simp [afterGetting, ThreadKind.next, removes, ThreadKind.index, hSome]
  · cases next <;> cases kind <;>
      simp_all [afterGetting, ThreadKind.next, removes, ThreadKind.index, Function.update_of_ne]

theorem removes_afterJoining {kind next : ThreadKind} {found : Found} (hNext : kind ≠ next)
    (h : (joining next found).removes kind = true) : (afterJoining next found).removes kind = true := by
  cases next <;> cases kind <;> simp_all [afterJoining, ThreadKind.next, removes, ThreadKind.index]

end KillPc

namespace ProxyLifecycle

variable {s : ProxyLifecycle}

/-! ## An event hits its own incarnation -/

/-- The alive thread is made and has not queued its event. -/
def AlivePending (s : ProxyLifecycle) (k : Nat) : Prop :=
  s.alive k = .waiting ∨ s.alive k = .terminatingSetting ∨ s.alive k = .awaking

instance (s : ProxyLifecycle) (k : Nat) : Decidable (s.AlivePending k) :=
  inferInstanceAs (Decidable (_ ∨ _ ∨ _))

/-- The terminator is still to look the table up for the event. -/
def Outstanding (s : ProxyLifecycle) (kind : ThreadKind) (proxyName : ProxyName) (k : Nat) : Prop :=
  s.proxyName k = proxyName ∧ s.AlivePending k ∨ (proxyName, k) ∈ s.queue ∨
    s.terminator = .unsenting proxyName k ∨
    s.terminator = .killing proxyName k ∧
      (s.kills .terminator).any (fun call => call.pc.before kind) = true

instance (s : ProxyLifecycle) (kind : ThreadKind) (proxyName : ProxyName) (k : Nat) :
    Decidable (s.Outstanding kind proxyName k) :=
  inferInstanceAs (Decidable (_ ∨ _ ∨ _ ∨ _))

/-- The activator registers an incarnation while an event of an earlier one is outstanding. -/
def OvertakesEvent (s : ProxyLifecycle) : LifecycleEvent → Prop
  | .activator _ =>
      match s.activator with
      | .setting kind j => ∃ k < j, s.Outstanding kind (s.proxyName j) k
      | _ => False
  | _ => False

instance (s : ProxyLifecycle) (e : LifecycleEvent) : Decidable (s.OvertakesEvent e) := by
  unfold OvertakesEvent
  split
  · split <;> infer_instance
  · infer_instance

/-- For the event of `k` the terminator stops and joins what is registered as `j`. -/
def Hits (s : ProxyLifecycle) (k j : Nat) : Prop :=
  ∃ proxyName call kind, s.terminator = .killing proxyName k ∧ s.kills .terminator = some call ∧
    call.pc.found kind = some j

theorem mem_queue_of_unsenting {proxyName : ProxyName} {k : Nat}
    (h : s.terminatorEffect.terminator = .unsenting proxyName k) : (proxyName, k) ∈ s.queue := by
  unfold terminatorEffect at h
  cases hPc : s.terminator with
  | draining =>
    cases hQueue : s.queue with
    | nil =>
      rw [hPc, hQueue] at h
      cases h
    | cons entry rest =>
      rw [hPc, hQueue] at h
      cases h
      exact List.mem_cons_self
  | _ =>
    rw [hPc] at h
    cases h

theorem unsenting_of_killing {proxyName : ProxyName} {k : Nat}
    (h : s.terminatorEffect.terminator = .killing proxyName k) :
    s.terminator = .unsenting proxyName k := by
  unfold terminatorEffect at h
  cases hPc : s.terminator with
  | draining =>
    rw [hPc] at h
    cases hQueue : s.queue <;>
    · rw [hQueue] at h
      cases h
  | _ =>
    rw [hPc] at h
    cases h
    try rfl

theorem lt_count_of_alivePending (hNumbered : s.Numbered) {k : Nat} (h : s.AlivePending k) :
    k < s.count := by
  by_contra hLate
  have hAbsent := hNumbered.fresh k (Nat.le_of_not_lt hLate)
  rcases h with hPc | hPc | hPc <;>
  · rw [hPc] at hAbsent
    cases hAbsent

theorem alivePending_effect {e : LifecycleEvent} (hGuard : e.guard s) {k : Nat}
    (h : (e.effect s).AlivePending k) : s.AlivePending k ∨ s.activator.creating = some k := by
  rcases s.alive_effect e k with hSame | hCreating | rfl
  · rw [AlivePending, hSame] at h
    exact .inl h
  · exact .inr hCreating
  · refine .inl ?_
    simp only [AlivePending, LifecycleEvent.effect, aliveEffect] at h
    have hEnabled : s.aliveEnabled k = true := hGuard
    cases hPc : s.alive k with
    | absent | finished => simp [aliveEnabled, hPc] at hEnabled
    | waiting => exact .inl hPc
    | terminatingSetting => exact .inr (.inl hPc)
    | awaking => exact .inr (.inr hPc)
    | notifying => simp [hPc, setAlive] at h

/-- An outstanding event was so before the step, or its alive thread has just been made. -/
theorem outstanding_effect (hNumbered : s.Numbered) {e : LifecycleEvent} (hGuard : e.guard s)
    {kind : ThreadKind} {proxyName : ProxyName} {k : Nat}
    (h : (e.effect s).Outstanding kind proxyName k) :
    s.Outstanding kind proxyName k ∨ s.activator.creating = some k := by
  rcases h with ⟨hName, hPending⟩ | hMem | hUnsenting | ⟨hKilling, hBefore⟩
  · refine (alivePending_effect hGuard hPending).imp_left fun hWas => .inl ⟨?_, hWas⟩
    rw [← hName, proxyName_effect (lt_count_of_alivePending hNumbered hWas)]
  · rcases mem_queue_effect hMem with hOld | ⟨-, hAwaking, hName⟩
    · exact .inl (.inr (.inl hOld))
    · exact .inl (.inl ⟨hName.symm, .inr (.inr hAwaking)⟩)
  · refine .inl ?_
    by_cases hTerminator : e = .terminator
    · subst hTerminator
      exact .inr (.inl (mem_queue_of_unsenting hUnsenting))
    · rw [(terminator_effect hTerminator).1] at hUnsenting
      exact .inr (.inr (.inl hUnsenting))
  · refine .inl ?_
    by_cases hTerminator : e = .terminator
    · subst hTerminator
      exact .inr (.inr (.inl (unsenting_of_killing hKilling)))
    · rw [(terminator_effect hTerminator).1] at hKilling
      refine .inr (.inr (.inr ⟨hKilling, ?_⟩))
      obtain ⟨call, hCall, hStill⟩ := (Option.any_eq_true _ _).mp hBefore
      rcases kills_effect hGuard hCall with hOld | ⟨-, hKiller, -⟩ | ⟨old, -, hOld, hEffect, -⟩
      · rw [hOld]
        exact hStill
      · exact absurd (LifecycleEvent.killer_eq_terminator hKiller) hTerminator
      · rw [hEffect] at hCall
        rw [hOld]
        exact before_killEffect hCall hStill

structure OwnIncarnation (s : ProxyLifecycle) : Prop where
  tables : ∀ kind proxyName j, (s.tables kind).lookup proxyName = some j →
    ∀ k < j, ¬ s.Outstanding kind proxyName k
  hits : ∀ k j, s.Hits k j → j ≤ k

namespace OwnIncarnation

theorem started : ProxyLifecycle.started.OwnIncarnation where
  tables kind proxyName j hj := by
    have hNone : (HashTable.empty : HashTable ProxyName Nat).lookup proxyName = some j := hj
    rw [HashTable.lookup_empty] at hNone
    cases hNone
  hits k j hHits := by
    obtain ⟨proxyName, call, kind, hKilling, -⟩ := hHits
    cases hKilling

/-- An entry is later than the events that are outstanding for its table. -/
theorem tables_effect (h : s.OwnIncarnation) (hNumbered : s.Numbered) {e : LifecycleEvent}
    (hGuard : e.guard s) (hOvertakes : ¬ s.OvertakesEvent e) {kind : ThreadKind}
    {proxyName : ProxyName} {j : Nat} (hj : ((e.effect s).tables kind).lookup proxyName = some j)
    {k : Nat} (hk : k < j) : ¬ (e.effect s).Outstanding kind proxyName k := by
  intro hOutstanding
  have hEntry : j < s.count ∧ ¬ s.Outstanding kind proxyName k := by
    rcases lookup_effect hj with hOld | ⟨⟨ok, rfl⟩, hSetting, rfl⟩
    · exact ⟨(hNumbered.tables kind proxyName j hOld).1, h.tables kind proxyName j hOld k hk⟩
    · refine ⟨hNumbered.number j (by rw [hSetting]; rfl), fun hWas => hOvertakes ?_⟩
      simp only [OvertakesEvent, hSetting]
      exact ⟨k, hk, hWas⟩
  rcases outstanding_effect hNumbered hGuard hOutstanding with hWas | hCreating
  · exact hEntry.2 hWas
  · -- the newest incarnation precedes nobody
    have hLast := (hNumbered.creating k hCreating).1
    omega

theorem hits_effect (h : s.OwnIncarnation) (hCalling : s.Calling) {e : LifecycleEvent}
    (hGuard : e.guard s) {k j : Nat} (hHits : (e.effect s).Hits k j) : j ≤ k := by
  obtain ⟨proxyName, call, kind, hKilling, hCall, hj⟩ := hHits
  rcases kills_effect hGuard hCall with hOld | ⟨hPc, -⟩ | ⟨old, rfl, hOld, hEffect, -⟩
  · by_cases hTerminator : e = .terminator
    · subst hTerminator
      have hOutside := hCalling.outside hGuard rfl
      rw [hOutside] at hOld
      cases hOld
    · rw [(terminator_effect hTerminator).1] at hKilling
      exact h.hits k j ⟨proxyName, call, kind, hKilling, hOld, hj⟩
  · rw [hPc] at hj
    cases hj
  · have hNot : LifecycleEvent.kill .terminator ≠ .terminator := nofun
    rw [(terminator_effect hNot).1] at hKilling
    rw [hEffect] at hCall
    rcases found_killEffect hCall hj with hFound | ⟨hBefore, hLookup⟩
    · exact h.hits k j ⟨proxyName, old, kind, hKilling, hOld, hFound⟩
    · obtain ⟨k', hAt⟩ := hCalling .terminator old hOld
      rw [hKilling] at hAt
      cases hAt
      by_contra hLater
      refine h.tables kind old.proxyName j hLookup k (Nat.lt_of_not_le hLater) ?_
      refine .inr (.inr (.inr ⟨hKilling, ?_⟩))
      rw [hOld]
      exact hBefore

end OwnIncarnation

/-- The event of an incarnation hits no later one in a run in which no incarnation is registered while
an event of an earlier one is outstanding. -/
theorem not_lt_of_hits
    (h : proxyLifecycleSystem.ReachableWhen (fun s e => ¬ s.OvertakesEvent e) s) {k j : Nat}
    (hHits : s.Hits k j) : ¬ k < j := by
  have hAll : s.Numbered ∧ s.Calling ∧ s.OwnIncarnation := by
    refine h.invariant (fun s => s.Numbered ∧ s.Calling ∧ s.OwnIncarnation) ?_ ?_
    · rintro s rfl
      exact ⟨.started, nofun, .started⟩
    · rintro s e ⟨hNumbered, hCalling, hOwn⟩ hGuard hOvertakes
      refine ⟨hNumbered.effect e hGuard, hCalling.effect e hGuard, ?_, ?_⟩
      · exact fun kind proxyName j hj k hk => hOwn.tables_effect hNumbered hGuard hOvertakes hj hk
      · exact fun k j => hOwn.hits_effect hCalling hGuard
  exact Nat.not_lt.mpr (hAll.2.2.hits k j hHits)

/-- The event of a proxy that died alone, up to the first lookup. -/
def quietDeathEvent : List LifecycleEvent :=
  List.flatten [[.terminator], activationRun "p", deathRun 0, [.alive 0],
    List.replicate 3 .terminator, List.replicate 2 (.kill .terminator)]

theorem not_lt_of_hits_quietDeathEvent :
    (proxyLifecycleSystem.run .started quietDeathEvent).Hits 0 0 ∧ ¬ 0 < 0 := by
  have hHits : (proxyLifecycleSystem.run .started quietDeathEvent).Hits 0 0 :=
    ⟨"p", _, .subscribe, rfl, rfl, rfl⟩
  refine ⟨hHits, not_lt_of_hits ?_ hHits⟩
  exact .run (.init rfl) quietDeathEvent (by decide)

/-- The main thread kills the proxy, whose alive thread queues its event on the way out, and takes the
name from the terminating list while the event is still queued. A new process of the proxy makes its
segments and is registered before the terminator wakes up. -/
def restartRun : List LifecycleEvent :=
  List.flatten [[.terminator], activationRun "p", [.killAll .inOrder, .main],
    List.replicate 4 (.kill .main),
    [.exit .subscribe 0, .kill .main, .kill .main, .exit .channel 0, .kill .main, .kill .main],
    deathRun 0, [.alive 0, .alive 0], List.replicate 3 (.kill .main), [.main], activationRun "p",
    List.replicate 3 .terminator, List.replicate 2 (.kill .terminator)]

set_option maxRecDepth 2000 in
theorem hits_later : ¬ ∀ s k j, proxyLifecycleSystem.Reachable s → s.Hits k j → ¬ k < j := by
  intro h
  refine h (proxyLifecycleSystem.run .started restartRun) 0 1 ?_ ⟨"p", _, .subscribe, rfl, rfl, rfl⟩ ?_
  · exact .run (.init rfl) restartRun (by decide)
  · exact Nat.one_pos

/-! ## A handled event leaves nothing registered -/

/-- The terminator has looked the table up for the event of the incarnation. -/
def lookedUp (s : ProxyLifecycle) (kind : ThreadKind) (k : Nat) : Bool :=
  s.handled k ||
    match s.terminator with
    | .killing _ j => decide (j = k) && !(s.kills .terminator).any fun call => call.pc.before kind
    | _ => false

/-- The activator registers an incarnation where the terminator has already looked for it. -/
def RegistersLate (s : ProxyLifecycle) : LifecycleEvent → Prop
  | .activator _ =>
      match s.activator with
      | .setting kind k => s.lookedUp kind k = true
      | _ => False
  | _ => False

instance (s : ProxyLifecycle) (e : LifecycleEvent) : Decidable (s.RegistersLate e) := by
  unfold RegistersLate
  split
  · split <;> infer_instance
  · infer_instance

/-- The terminator's call for the event of an incarnation removes what the incarnation has registered. -/
structure Unregistered (s : ProxyLifecycle) : Prop where
  handled : ∀ kind proxyName k, s.handled k = true → (s.tables kind).lookup proxyName ≠ some k
  killing : ∀ kind proxyName k, s.terminator = .killing proxyName k →
    (s.tables kind).lookup proxyName = some k →
    (s.kills .terminator).any (fun call => call.pc.removes kind) = true

/-- A call that would remove the entry of a table still does, or has just done it. -/
theorem removes_killEffect {x : Killer} {call : KillCall} {kind : ThreadKind} {k : Nat}
    (h : call.pc.removes kind = true)
    (hk : ((s.killEffect x call).tables kind).lookup call.proxyName = some k) :
    ((s.killEffect x call).kills x).any (fun call => call.pc.removes kind) = true := by
  unfold killEffect at hk ⊢
  cases hPc : call.pc with
  | locking =>
    simp only [kills_setKill_self, Option.any_some]
    rfl
  | getting next found =>
    simp only [hPc, kills_setKill_self, Option.any_some] at hk h ⊢
    refine KillPc.removes_afterGetting h fun hKind => ?_
    subst hKind
    exact Option.isSome_of_mem hk
  | joining next found =>
    simp only [hPc, kills_setKill_self, Option.any_some] at h ⊢
    cases hFound : found next with
    | some j => exact h
    | none =>
      refine KillPc.removes_afterJoining (fun hKind => ?_) h
      rw [hKind] at h
      simp [KillPc.removes, hFound] at h
  | removing next found =>
    simp only [hPc, kills_setKill_self, Option.any_some] at hk h ⊢
    refine KillPc.removes_afterJoining (fun hKind => ?_) h
    subst hKind
    change ((s.tableSet kind ((s.tables kind).remove call.proxyName)).tables kind).lookup
      call.proxyName = some k at hk
    rw [tables_tableSet_self, HashTable.lookup_remove_self] at hk
    cases hk
  | unlocking =>
    rw [hPc] at h
    cases h

theorem handled_terminatorEffect (k : Nat) :
    s.terminatorEffect.handled k = true ↔
      s.handled k = true ∨ ∃ proxyName, s.terminator = .killing proxyName k := by
  unfold terminatorEffect
  cases hPc : s.terminator with
  | killing proxyName j =>
    by_cases hk : k = j
    · subst hk
      simp
    · have hOther : ¬ j = k := fun hEq => hk hEq.symm
      simp [Function.update_of_ne hk, hOther]
  | draining => cases s.queue <;> simp
  | _ => simp [setKill]

theorem handled_effect {e : LifecycleEvent} {k : Nat} (h : (e.effect s).handled k = true) :
    s.handled k = true ∨ e = .terminator ∧ ∃ proxyName, s.terminator = .killing proxyName k := by
  by_cases hTerminator : e = .terminator
  · subst hTerminator
    exact ((handled_terminatorEffect k).mp h).imp_right fun hKilling => ⟨rfl, hKilling⟩
  · rw [(terminator_effect hTerminator).2.2] at h
    exact .inl h

theorem handled_mono {k : Nat} (h : s.handled k = true) (e : LifecycleEvent) :
    (e.effect s).handled k = true := by
  by_cases hTerminator : e = .terminator
  · subst hTerminator
    exact (handled_terminatorEffect k).mpr (.inl h)
  · rw [(terminator_effect hTerminator).2.2]
    exact h

namespace Unregistered

theorem started : ProxyLifecycle.started.Unregistered where
  handled _ _ _ h := nomatch h
  killing _ _ _ h := nomatch h

theorem handled_effect (h : s.Unregistered) (hNumbered : s.Numbered) (hCalling : s.Calling)
    {e : LifecycleEvent}
    (hGuard : e.guard s) (hLate : ¬ s.RegistersLate e) {kind : ThreadKind} {proxyName : ProxyName}
    {k : Nat} (hHandled : (e.effect s).handled k = true) :
    ((e.effect s).tables kind).lookup proxyName ≠ some k := by
  intro hEntry
  rcases lookup_effect hEntry with hOld | ⟨⟨ok, rfl⟩, hSetting, rfl⟩
  · rcases ProxyLifecycle.handled_effect hHandled with hWas | ⟨rfl, name, hKilling⟩
    · exact h.handled kind proxyName k hWas hOld
    · -- the call has returned, so the entry is gone
      have hName : s.proxyName k = name := (hNumbered.event name k (by rw [hKilling]; rfl)).2
      obtain rfl : name = proxyName := by
        rw [← hName]
        exact (hNumbered.tables kind proxyName k hOld).2
      have hRemoves := h.killing kind name k hKilling hOld
      rw [hCalling.outside hGuard rfl] at hRemoves
      cases hRemoves
  · rcases ProxyLifecycle.handled_effect hHandled with hWas | ⟨hEq, -⟩
    · refine hLate ?_
      simp only [RegistersLate, hSetting, lookedUp, hWas, Bool.true_or]
    · cases hEq

theorem killing_effect (h : s.Unregistered) (hCalling : s.Calling)
    {e : LifecycleEvent}
    (hGuard : e.guard s) (hLate : ¬ s.RegistersLate e) {kind : ThreadKind} {proxyName : ProxyName}
    {k : Nat} (hKilling : (e.effect s).terminator = .killing proxyName k)
    (hEntry : ((e.effect s).tables kind).lookup proxyName = some k) :
    ((e.effect s).kills .terminator).any (fun call => call.pc.removes kind) = true := by
  by_cases hTerminator : e = .terminator
  · subst hTerminator
    have hPc := unsenting_of_killing hKilling
    simp only [LifecycleEvent.effect, terminatorEffect, hPc, kills_setKill_self]
    rfl
  · rw [(terminator_effect hTerminator).1] at hKilling
    rcases lookup_effect hEntry with hOld | ⟨⟨ok, rfl⟩, hSetting, rfl⟩
    · have hRemoves := h.killing kind proxyName k hKilling hOld
      by_cases hKill : e = .kill .terminator
      · subst hKill
        obtain ⟨call, hCall, -⟩ := exists_of_guard_kill hGuard
        obtain ⟨k', hAt⟩ := hCalling .terminator call hCall
        rw [hKilling] at hAt
        cases hAt
        rw [hCall] at hRemoves
        rw [effect_kill hCall] at hEntry ⊢
        exact removes_killEffect hRemoves hEntry
      · rwa [kills_effect_of_ne (fun hEq => hTerminator (LifecycleEvent.killer_eq_terminator hEq)) hKill]
    · have hSame : ((LifecycleEvent.activator ok).effect s).kills .terminator = s.kills .terminator :=
        kills_effect_of_ne (fun hEq => Killer.noConfusion (Option.some.inj hEq)) (by simp)
      rw [hSame]
      have hNot : s.lookedUp kind k = false := by
        simp only [RegistersLate, hSetting] at hLate
        exact Bool.of_not_eq_true hLate
      simp only [lookedUp, hKilling, Bool.or_eq_false_iff, decide_true, Bool.true_and,
        Bool.not_eq_false'] at hNot
      obtain ⟨call, hCall, hBefore⟩ := (Option.any_eq_true _ _).mp hNot.2
      rw [hCall]
      exact KillPc.removes_of_before hBefore

end Unregistered

/-- Once the event of an incarnation is handled, no table holds an entry of it then or later, in a run in
which no incarnation is registered where the terminator has already looked for it. -/
theorem unregistered_of_handled
    (h : proxyLifecycleSystem.ReachableWhen (fun s e => ¬ s.RegistersLate e) s) {k : Nat}
    (hHandled : s.handled k = true) (events : List LifecycleEvent)
    (hAdmits : proxyLifecycleSystem.Admits (fun s e => ¬ s.RegistersLate e) s events)
    (kind : ThreadKind) (proxyName : ProxyName) :
    ((proxyLifecycleSystem.run s events).tables kind).lookup proxyName ≠ some k := by
  have hLater : (proxyLifecycleSystem.run s events).handled k = true := by
    clear h hAdmits
    induction events generalizing s with
    | nil => exact hHandled
    | cons e events ih => exact ih (handled_mono hHandled e)
  have hAll : (proxyLifecycleSystem.run s events).Numbered ∧
      (proxyLifecycleSystem.run s events).Calling ∧
      (proxyLifecycleSystem.run s events).Unregistered := by
    refine (h.run events hAdmits).invariant (fun s => s.Numbered ∧ s.Calling ∧ s.Unregistered) ?_ ?_
    · rintro s rfl
      exact ⟨.started, nofun, .started⟩
    · rintro s e ⟨hNumbered, hCalling, hUnregistered⟩ hGuard hLate
      refine ⟨hNumbered.effect e hGuard, hCalling.effect e hGuard, ?_, ?_⟩
      · exact fun kind proxyName k => hUnregistered.handled_effect hNumbered hCalling hGuard hLate
      · exact fun kind proxyName k => hUnregistered.killing_effect hCalling hGuard hLate
  exact hAll.2.2.handled kind proxyName k hLater

theorem unregistered_of_handled_quietDeathHandled :
    ((proxyLifecycleSystem.run .started quietDeathHandled).tables .alive).lookup "p" ≠ some 0 := by
  refine unregistered_of_handled (s := proxyLifecycleSystem.run .started quietDeathHandled)
    ?_ rfl [] trivial .alive "p"
  exact .run (.init rfl) quietDeathHandled (by decide)

/-- The activation is answered while the event of the proxy, which died just after its answer, has
already been handled. -/
def deathBeforeRegistration : List LifecycleEvent :=
  List.flatten [[.terminator, .request "p", .activator true], List.replicate 8 (.kill .activator),
    List.replicate 4 (.activator true), deathRun 0, [.alive 0], List.replicate 3 .terminator,
    List.replicate 8 (.kill .terminator), [.terminator, .respond .done, .activator true]]

theorem registered_after_handled :
    ¬ ∀ s k kind proxyName, proxyLifecycleSystem.Reachable s → s.handled k = true →
      (s.tables kind).lookup proxyName ≠ some k := by
  intro h
  refine h (proxyLifecycleSystem.run .started deathBeforeRegistration) 0 .subscribe "p" ?_ rfl rfl
  exact .run (.init rfl) deathBeforeRegistration (by decide)

end ProxyLifecycle

end Gonggo
