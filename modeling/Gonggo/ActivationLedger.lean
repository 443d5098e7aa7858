import Gonggo.ThreadLedgerInvariants

/-! # Threads of the activations, made and joined

Clean-up goes by the contexts, and a context is there before its thread is made. As long as no
`pthread_create` fails the ledger is in order; after one that fails, the activation joins a handle that
was never set.
-/

namespace Gonggo

/-- The thread was made by the activation that is undone, or is registered under the proxy that is
killed. -/
def ThreadJoin.Owned (join : ThreadJoin) (s : ThreadLedger) : Prop :=
  ∃ k, join.handle = some k ∧
    match join.cause with
    | .undoing j => j = k ∧ (join.kind, k) ∈ s.created
    | .killing proxyName => (s.core.tables join.kind).lookup proxyName = some k

namespace ThreadLedger

variable {s : ThreadLedger}

/-- `proxy_activation` returns a state other than success. -/
def ActivationFails (s : ThreadLedger) (e : LifecycleEvent) : Prop :=
  s.core.activator.activating = true ∧
    ((s.effect e).core.activator = .idle ∨ (s.effect e).core.activator = .ended)

structure Balanced (s : ThreadLedger) : Prop where
  owned : ∀ e join, s.guard e → s.join e = some join → join.Owned s
  once : ∀ kind k, s.joins.count (kind, some k) ≤ 1
  undone : ∀ e, s.guard e → s.ActivationFails e →
    (∀ kind, (s.effect e).vars.contexts kind = false) ∧
      ∀ kind k, s.core.activator.number = some k → (kind, k) ∈ (s.effect e).created →
        (kind, some k) ∈ (s.effect e).joins
  vacant : ∀ kind k, s.core.activator = .setting kind k →
    (s.core.tables kind).lookup (s.core.proxyName k) = none

/-! ## Failed activations -/

theorem cleared_of_activating {k : Nat} (hActivating : s.core.activator.activating = true)
    (hNumber : s.core.activator.number = some k) (kind : ThreadKind) :
    s.core.cleared kind = some (s.core.proxyName k) := by
  unfold ProxyLifecycle.cleared
  cases hPc : s.core.activator with
  | channelCreating j | aliveCreating j | responding j | stopping j | joining next j =>
    rw [hPc] at hNumber
    exact congrArg (fun j => some (s.core.proxyName j)) (Option.some.inj hNumber)
  | setting | waking | notifying =>
    rw [hPc] at hActivating
    cases hActivating
  | _ =>
    rw [hPc] at hNumber
    cases hNumber

/-- Nothing of a failed activation is in the hands of the activator any more, and nothing of it was
registered. -/
theorem joined_of_fails (hCore : s.core.Consistent) (hBooked : s.Booked) {e : LifecycleEvent}
    (hGuard : s.guard e) (hFails : s.ActivationFails e) {kind : ThreadKind} {k : Nat}
    (hNumber : s.core.activator.number = some k) (hMade : (kind, k) ∈ (s.effect e).created) :
    (kind, some k) ∈ (s.effect e).joins := by
  obtain ⟨hActivating, hOver⟩ := hFails
  have hk := hCore.numbered.number k hNumber
  rcases (hBooked.effect hCore e hGuard).accounted kind k hMade with hJoined | hKeeps | hEntry
  · exact hJoined
  · rcases hOver with hPc | hPc <;>
    · rw [hPc] at hKeeps
      cases hKeeps
  · have hName : (s.effect e).core.proxyName k = s.core.proxyName k :=
      ProxyLifecycle.proxyName_effect hk e
    rw [hName] at hEntry
    rcases ProxyLifecycle.lookup_effect hEntry with hOld | ⟨-, hSetting, -⟩
    · rw [hCore.inTurn.vacant kind _ (cleared_of_activating hActivating hNumber kind)] at hOld
      cases hOld
    · rw [hSetting] at hActivating
      cases hActivating

theorem undone_of_fails (hCore : s.core.Consistent) (hBooked : s.Booked) {e : LifecycleEvent}
    (hGuard : s.guard e) (hFails : s.ActivationFails e) (kind : ThreadKind) :
    (s.effect e).vars.contexts kind = false := by
  rw [hBooked.contexts_effect hCore hGuard.1 (.inl hFails.1)]
  rcases hFails.2 with hPc | hPc <;>
  · rw [hPc]
    rfl

/-! ## Runs without a failing `pthread_create` -/

/-- The handle of every thread that the activator was to make is set. -/
def HandlesSet (s : ThreadLedger) : Prop :=
  ∀ kind k, s.core.activator.keeps kind = some k → s.vars.handles kind = some k

theorem HandlesSet.effect (h : s.HandlesSet) (hCore : s.core.Consistent) {e : LifecycleEvent}
    (hSucceeds : ¬ s.core.FailsCreation e) : (s.effect e).HandlesSet := by
  intro kind k hKeeps
  rcases ProxyLifecycle.keeps_effect hCore.complete hKeeps with ⟨hWas, -⟩ | hCreation
  · rw [handles_effect_of_keeps hWas]
    exact h kind k hWas
  · have hOk : e.ok = true := by
      by_contra hFails
      exact hSucceeds ⟨by rw [hCreation]; rfl, Bool.of_not_eq_true hFails⟩
    rw [handles_effect_of_creation hCreation, hOk]
    rfl

theorem owned_of_join (hCore : s.core.Consistent) (hBooked : s.Booked) (hHandles : s.HandlesSet)
    {e : LifecycleEvent} {join : ThreadJoin} (hJoin : s.join e = some join) : join.Owned s := by
  rcases join_cases hJoin with ⟨ok, j, last, ending, rfl, hPc, hContext, hHandle, hCause⟩ |
    ⟨x, proxyName, found, k, rfl, hCall, hFound, hHandle, hCause⟩
  · rw [hBooked.contexts (by rw [hPc]; rfl)] at hContext
    obtain ⟨k, hKeeps⟩ := Option.isSome_iff_exists.mp hContext
    have hNumber := ActivatorPc.number_of_keeps hKeeps
    rw [hPc] at hNumber
    have hSet := hHandles join.kind k hKeeps
    have hThread : join.handle = some k := hHandle.trans hSet
    refine ⟨k, hThread, ?_⟩
    rw [hCause]
    exact ⟨Option.some.inj hNumber, hBooked.created_of_join hCore hJoin hThread⟩
  · refine ⟨k, hHandle, ?_⟩
    rw [hCause]
    exact hCore.inTurn.held_joining hCall hFound

/-- In a run in which no `pthread_create` fails the ledger is in order in every state. -/
theorem balanced_of_reachable
    (h : threadLedgerSystem.ReachableWhen (fun s e => ¬ s.core.FailsCreation e) s) : s.Balanced := by
  have hCore : s.core.Consistent := .of_reachable (reachable_core h)
  have hBooked : s.Booked := .of_reachable h
  have hHandles : s.HandlesSet := by
    apply h.invariant_with fun s hReach => ProxyLifecycle.Consistent.of_reachable (reachable_core hReach)
    · rintro s rfl kind k hKeeps
      cases hKeeps
    · exact fun s e hCore hHandles _ hSucceeds => hHandles.effect hCore hSucceeds
  exact {
    owned := fun e join _ hJoin => owned_of_join hCore hBooked hHandles hJoin
    once := hBooked.once
    undone := fun e hGuard hFails => ⟨undone_of_fails hCore hBooked hGuard hFails,
      fun kind k hNumber hMade => joined_of_fails hCore hBooked hGuard hFails hNumber hMade⟩
    vacant := fun kind k hPc => hCore.inTurn.vacant_setting hPc (Nat.le_refl _) }

/-- A proxy dies, is activated again once its threads are killed, and does not answer this time. -/
def unansweredActivation : List LifecycleEvent :=
  List.flatten [ProxyLifecycle.quietDeathHandled, [.request "p", .activator true],
    List.replicate 8 (.kill .activator), List.replicate 4 (.activator true),
    [.respond .timeout, .activator true, .exit .subscribe 1, .activator true, .exit .channel 1,
      .activator true],
    ProxyLifecycle.deathRun 1, [.terminator, .alive 1, .alive 1, .activator true]]

set_option maxRecDepth 8000 in
theorem balanced_of_reachable_unansweredActivation :
    (threadLedgerSystem.run .started unansweredActivation).Balanced ∧
      (threadLedgerSystem.run .started unansweredActivation).joins.length = 6 :=
  ⟨balanced_of_reachable (.run (.init rfl) unansweredActivation (by decide)), by decide⟩

/-- The subscribe thread of a first activation cannot be made. -/
def failingCreation : List LifecycleEvent :=
  List.flatten [[.request "p", .activator true], List.replicate 8 (.kill .activator),
    [.activator true, .activator false, .respond .timeout, .activator true]]

theorem not_balanced : ¬ ∀ s, threadLedgerSystem.Reachable s → s.Balanced := by
  intro h
  have hReach : threadLedgerSystem.Reachable (threadLedgerSystem.run .started failingCreation) :=
    .run (.init rfl) failingCreation (by decide)
  have hGuard : threadLedgerSystem.guard (threadLedgerSystem.run .started failingCreation)
      (.activator true) := by decide
  obtain ⟨k, hHandle, -⟩ := (h _ hReach).owned (.activator true) _ hGuard rfl
  cases hHandle

end ThreadLedger

end Gonggo
