import Gonggo.ThreadLedger

/-! # What the ledger of the proxy threads says

Every thread made is joined, in the hands of the activator or registered under its name, and nothing is
joined twice. Only the join of a thread that could not be made is of no thread at all.
-/

namespace Gonggo

/-! ## What the activator has in hand -/

namespace ActivatorPc

/-- The activation whose thread of the kind the activator was to make and has neither joined nor
registered. -/
def keeps (kind : ThreadKind) : ActivatorPc → Option Nat
  | .channelCreating k => if kind = .subscribe then some k else none
  | .aliveCreating k => if kind = .alive then none else some k
  | .responding k last _ | .stopping k last _ => if kind.index ≤ last.index then some k else none
  | .joining next k last _ =>
      if next.index ≤ kind.index ∧ kind.index ≤ last.index then some k else none
  | .setting next k => if next.index ≤ kind.index then some k else none
  | _ => none

/-- The thread of the kind may not have been made. -/
def doubts (kind : ThreadKind) : ActivatorPc → Bool
  | .responding _ last created => !created && decide (kind = last)
  | .stopping _ last _ | .joining _ _ last _ => decide (kind = last)
  | _ => false

/-- The activator is in `proxy_activation`, past the test for a zombie. -/
def activating : ActivatorPc → Bool
  | .killing _ | .subscribeCreating _ | .channelCreating _ | .aliveCreating _ | .dying
  | .responding _ _ _ | .stopping _ _ _ | .joining _ _ _ _ => true
  | _ => false

theorem number_of_keeps {pc : ActivatorPc} {kind : ThreadKind} {k : Nat} (h : pc.keeps kind = some k) :
    pc.number = some k := by
  cases pc with
  | aliveCreating j => exact (Option.ite_none_left_eq_some.mp h).2
  | channelCreating | responding | stopping | joining | setting =>
    exact (Option.ite_none_right_eq_some.mp h).2
  | _ => cases h

end ActivatorPc

namespace ProxyLifecycle

variable {s : ProxyLifecycle}

theorem cleared_of_keeps {kind : ThreadKind} {k : Nat} (h : s.activator.keeps kind = some k) :
    s.cleared kind = some (s.proxyName k) := by
  have hNumber := ActivatorPc.number_of_keeps h
  unfold cleared
  cases hPc : s.activator with
  | channelCreating j | aliveCreating j | responding j | stopping j | joining next j =>
    rw [hPc] at hNumber
    exact congrArg (fun j => some (s.proxyName j)) (Option.some.inj hNumber)
  | setting next j =>
    rw [hPc] at h
    obtain ⟨hLe, hk⟩ := Option.ite_none_right_eq_some.mp h
    obtain rfl := Option.some.inj hk
    exact if_pos hLe
  | _ =>
    rw [hPc] at h
    cases h

/-- What the activator has in hand is not registered. -/
theorem InTurn.not_registered (h : s.InTurn) (hNumbered : s.Numbered) {kind : ThreadKind} {k : Nat}
    (hKeeps : s.activator.keeps kind = some k) (proxyName : ProxyName) :
    (s.tables kind).lookup proxyName ≠ some k := by
  intro hEntry
  have hVacant := h.vacant kind _ (cleared_of_keeps hKeeps)
  rw [(hNumbered.tables kind proxyName k hEntry).2, hEntry] at hVacant
  cases hVacant

theorem InTurn.held_joining (h : s.InTurn) {x : Killer} {proxyName : ProxyName} {kind : ThreadKind}
    {found : Found} {k : Nat} (hCall : s.kills x = some ⟨proxyName, .joining kind found⟩)
    (hFound : found kind = some k) : (s.tables kind).lookup proxyName = some k :=
  h.held x _ kind k hCall ((KillPc.holds_joining_self ..).trans hFound)

/-- An activation whose threads are all made has an alive thread. -/
def Complete (s : ProxyLifecycle) : Prop :=
  ∀ k last, s.activator = .responding k last true → last = .alive

theorem Complete.effect (h : s.Complete) (e : LifecycleEvent) : (e.effect s).Complete := by
  intro k last hPc
  by_cases hKiller : e.killer = some .activator
  · cases e with
    | request => cases hPc
    | activator ok =>
      simp only [LifecycleEvent.effect, activatorEffect] at hPc
      cases hOld : s.activator with
      | checking proxyName | killing proxyName =>
        simp only [hOld] at hPc
        split at hPc <;> cases hPc
      | joining kind j first ending =>
        simp only [hOld] at hPc
        cases hNext : (if kind = first then none else kind.next) <;> simp only [hNext] at hPc
        · cases ending <;> cases hPc
        · cases hPc
      | setting kind j =>
        simp only [hOld] at hPc
        cases hNext : kind.next <;> simp only [hNext] at hPc <;> cases hPc
      | responding => exact h k last (by simpa only [hOld] using hPc)
      | aliveCreating j =>
        simp only [hOld] at hPc
        cases hPc
        rfl
      | _ =>
        simp only [hOld] at hPc
        cases ok <;> cases hPc
    | respond outcome =>
      simp only [LifecycleEvent.effect, respond] at hPc
      cases hOld : s.activator with
      | dying | responding =>
        simp only [hOld] at hPc
        split at hPc <;> cases hPc
      | _ =>
        simp only [hOld] at hPc
        cases hPc
    | kill | terminator | killAll | main | alive | exit => cases hKiller
  · rw [activator_effect hKiller] at hPc
    exact h k last hPc

/-- The activator joins the thread of the kind, or registers it. -/
def Releases (s : ProxyLifecycle) (e : LifecycleEvent) (kind : ThreadKind) : Prop :=
  (∃ ok, e = .activator ok) ∧
    ((∃ k last ending, s.activator = .joining kind k last ending) ∨ ∃ k, s.activator = .setting kind k)

theorem keeps_activatorEffect {ok : Bool} {kind : ThreadKind} {k : Nat}
    (h : (s.activatorEffect ok).activator.keeps kind = some k) :
    s.activator.keeps kind = some k ∧ ¬ s.Releases (.activator ok) kind ∨
      s.creation (.activator ok) = some (kind, k) := by
  unfold activatorEffect at h
  unfold creation Releases
  cases hPc : s.activator with
  | checking proxyName | killing proxyName =>
    simp only [hPc] at h
    split at h <;> cases h
  | subscribeCreating proxyName =>
    simp only [hPc] at h
    refine .inr ?_
    cases ok <;> cases kind <;> cases h <;> rfl
  | channelCreating j =>
    simp only [hPc] at h
    cases ok <;> cases kind <;> cases h <;>
      first | exact .inr rfl | exact .inl ⟨rfl, by simp⟩
  | aliveCreating j =>
    simp only [hPc] at h
    cases ok <;> cases kind <;> cases h <;>
      first | exact .inr rfl | exact .inl ⟨rfl, by simp⟩
  | stopping j last ending =>
    simp only [hPc] at h
    refine .inl ⟨?_, by simp⟩
    obtain ⟨hLe, hj⟩ := Option.ite_none_right_eq_some.mp h
    exact (if_pos hLe.2).trans hj
  | joining next j last ending =>
    simp only [hPc] at h
    cases next <;> cases last <;> cases ending <;> cases kind <;> cases h <;>
      exact .inl ⟨rfl, by simp⟩
  | setting next j =>
    simp only [hPc] at h
    cases next <;> cases kind <;> cases h <;> exact .inl ⟨rfl, by simp⟩
  | waking j | notifying j =>
    simp only [hPc] at h
    cases h
  | idle | dying | responding | ended =>
    simp only [hPc] at h
    first | cases h | exact .inl ⟨h, by simp⟩

theorem keeps_respond (hComplete : s.Complete) (outcome : RespondOutcome) (kind : ThreadKind) :
    (s.respond outcome).activator.keeps kind = s.activator.keeps kind := by
  unfold respond
  cases hPc : s.activator with
  | dying =>
    dsimp only
    split <;> rfl
  | responding j last created =>
    dsimp only
    split
    · rename_i hDone
      obtain rfl := hComplete j last (hDone.1 ▸ hPc)
      cases kind <;> rfl
    · rfl
  | _ => rfl

theorem keeps_effect (hComplete : s.Complete) {e : LifecycleEvent} {kind : ThreadKind} {k : Nat}
    (h : (e.effect s).activator.keeps kind = some k) :
    s.activator.keeps kind = some k ∧ ¬ s.Releases e kind ∨ s.creation e = some (kind, k) := by
  by_cases hKiller : e.killer = some .activator
  · cases e with
    | request => cases h
    | activator ok => exact keeps_activatorEffect h
    | respond outcome =>
      refine .inl ⟨(keeps_respond hComplete outcome kind).symm.trans h, ?_⟩
      rintro ⟨⟨ok, hEq⟩, -⟩
      cases hEq
    | kill | terminator | killAll | main | alive | exit => cases hKiller
  · refine .inl ⟨by rwa [activator_effect hKiller] at h, ?_⟩
    rintro ⟨⟨ok, rfl⟩, -⟩
    exact hKiller rfl

theorem keeps_effect_or (hComplete : s.Complete) {e : LifecycleEvent} (hGuard : e.guard s)
    {kind : ThreadKind} {k : Nat} (h : s.activator.keeps kind = some k) :
    (e.effect s).activator.keeps kind = some k ∨ s.Releases e kind := by
  by_cases hKiller : e.killer = some .activator
  · cases e with
    | request =>
      rw [(of_decide_eq_true hGuard).1] at h
      cases h
    | activator ok =>
      simp only [LifecycleEvent.effect, activatorEffect, Releases]
      cases hPc : s.activator with
      | channelCreating j | aliveCreating j =>
        rw [hPc] at h
        cases ok <;> cases kind <;> cases h <;> exact .inl rfl
      | stopping j last ending =>
        rw [hPc] at h
        obtain ⟨hLe, hj⟩ := Option.ite_none_right_eq_some.mp h
        exact .inl ((if_pos ⟨Nat.zero_le _, hLe⟩).trans hj)
      | joining next j last ending =>
        rw [hPc] at h
        cases next <;> cases kind <;> cases last <;> cases h <;>
          first | exact .inl rfl | exact .inr ⟨⟨ok, rfl⟩, .inl ⟨_, _, _, rfl⟩⟩
      | setting next j =>
        rw [hPc] at h
        cases next <;> cases kind <;> cases h <;>
          first | exact .inl rfl | exact .inr ⟨⟨ok, rfl⟩, .inr ⟨_, rfl⟩⟩
      | responding =>
        rw [hPc] at h
        dsimp only
        rw [hPc]
        exact .inl h
      | _ =>
        rw [hPc] at h
        cases h
    | respond outcome => exact .inl ((keeps_respond hComplete outcome kind).trans h)
    | kill | terminator | killAll | main | alive | exit => cases hKiller
  · rw [activator_effect hKiller]
    exact .inl h

theorem doubts_effect {e : LifecycleEvent} {kind : ThreadKind} {k : Nat}
    (hDoubts : s.activator.doubts kind = true) (hKeeps : (e.effect s).activator.keeps kind = some k) :
    (e.effect s).activator.doubts kind = true := by
  by_cases hKiller : e.killer = some .activator
  · cases e with
    | request => cases hKeeps
    | activator ok =>
      simp only [LifecycleEvent.effect, activatorEffect] at hKeeps ⊢
      cases hPc : s.activator with
      | stopping j last ending =>
        rw [hPc] at hDoubts
        exact hDoubts
      | joining next j last ending =>
        rw [hPc] at hDoubts
        simp only [hPc] at hKeeps
        dsimp only
        cases hNext : (if next = last then none else next.next) <;> simp only [hNext] at hKeeps ⊢
        · cases ending <;> cases hKeeps
        · exact hDoubts
      | responding =>
        rw [hPc] at hDoubts
        dsimp only
        rw [hPc]
        exact hDoubts
      | _ =>
        rw [hPc] at hDoubts
        cases hDoubts
    | respond outcome =>
      simp only [LifecycleEvent.effect, respond] at hKeeps ⊢
      cases hPc : s.activator with
      | responding j last created =>
        rw [hPc] at hDoubts
        obtain ⟨hFailed, hLast⟩ := Bool.and_eq_true_iff.mp hDoubts
        dsimp only
        rw [if_neg fun hDone => by simp [hDone.1] at hFailed]
        exact hLast
      | stopping | joining =>
        rw [hPc] at hDoubts
        exact hDoubts
      | _ =>
        rw [hPc] at hDoubts
        cases hDoubts
    | kill | terminator | killAll | main | alive | exit => cases hKiller
  · rw [activator_effect hKiller]
    exact hDoubts

theorem keeps_of_creation {e : LifecycleEvent} {kind : ThreadKind} {k : Nat}
    (h : s.creation e = some (kind, k)) :
    s.activator.keeps kind = none ∧ (e.effect s).activator.keeps kind = some k ∧
      (e.ok = false → (e.effect s).activator.doubts kind = true) := by
  unfold creation at h
  cases e with
  | activator ok =>
    simp only [LifecycleEvent.effect, activatorEffect]
    cases hPc : s.activator with
    | subscribeCreating | channelCreating | aliveCreating =>
      simp only [hPc] at h
      cases h
      cases ok
      · exact ⟨rfl, rfl, fun _ => rfl⟩
      · exact ⟨rfl, rfl, fun hOk => by cases hOk⟩
    | _ =>
      simp only [hPc] at h
      cases h
  | _ => cases h

theorem number_of_creation {e : LifecycleEvent} {kind : ThreadKind} {k : Nat}
    (h : s.creation e = some (kind, k)) :
    k = s.count ∧ (e.effect s).count = s.count + 1 ∨ s.activator.creating = some k := by
  unfold creation at h
  cases e with
  | activator ok =>
    simp only [LifecycleEvent.effect, activatorEffect]
    cases hPc : s.activator with
    | subscribeCreating =>
      simp only [hPc] at h
      cases h
      exact .inl ⟨rfl, rfl⟩
    | channelCreating | aliveCreating =>
      simp only [hPc] at h
      cases h
      exact .inr rfl
    | _ =>
      simp only [hPc] at h
      cases h
  | _ => cases h

end ProxyLifecycle

/-- What is known of the proxies in every run. -/
structure ProxyLifecycle.Consistent (s : ProxyLifecycle) : Prop where
  numbered : s.Numbered
  calling : s.Calling
  inTurn : s.InTurn
  complete : s.Complete

theorem ProxyLifecycle.Consistent.of_reachable {cond : ProxyLifecycle → LifecycleEvent → Prop}
    {s : ProxyLifecycle} (h : proxyLifecycleSystem.ReachableWhen cond s) : s.Consistent where
  numbered := numbered_of_reachable h
  calling := calling_of_reachable h
  inTurn := .of_reachable h
  complete := by
    apply h.invariant
    · rintro s rfl k last hPc
      cases hPc
    · exact fun s e hComplete _ _ => hComplete.effect e

namespace ThreadLedger

variable {s : ThreadLedger}

/-! ## The books -/

@[simp] theorem mem_created_effect (s : ThreadLedger) (e : LifecycleEvent) (thread : ThreadKind × Nat) :
    thread ∈ (s.effect e).created ↔
      thread ∈ s.created ∨ e.ok = true ∧ s.core.creation e = some thread := by
  cases hOk : e.ok <;> simp [effect, hOk]

@[simp] theorem mem_joins_effect (s : ThreadLedger) (e : LifecycleEvent)
    (entry : ThreadKind × Option Nat) :
    entry ∈ (s.effect e).joins ↔
      entry ∈ s.joins ∨ ∃ join, s.join e = some join ∧ (join.kind, join.handle) = entry := by
  simp [effect]

/-- A join is of a thread that the activation undone was to make, or of one that a call found. -/
theorem join_cases {e : LifecycleEvent} {join : ThreadJoin} (h : s.join e = some join) :
    (∃ ok k last ending, e = .activator ok ∧ s.core.activator = .joining join.kind k last ending ∧
      s.vars.contexts join.kind = true ∧ join.handle = s.vars.handles join.kind ∧
      join.cause = .undoing k) ∨
    ∃ x proxyName found k, e = .kill x ∧
      s.core.kills x = some ⟨proxyName, .joining join.kind found⟩ ∧ found join.kind = some k ∧
      join.handle = some k ∧ join.cause = .killing proxyName := by
  unfold ThreadLedger.join at h
  cases e with
  | activator ok =>
    refine .inl ?_
    cases hPc : s.core.activator with
    | joining kind k last ending =>
      simp only [hPc] at h
      obtain ⟨hContext, hJoin⟩ := Option.ite_none_right_eq_some.mp h
      obtain rfl := Option.some.inj hJoin
      exact ⟨ok, k, last, ending, rfl, rfl, hContext, rfl, rfl⟩
    | _ =>
      simp only [hPc] at h
      cases h
  | kill x =>
    refine .inr ?_
    rcases hCall : s.core.kills x with _ | ⟨proxyName, pc⟩
    · simp only [hCall] at h
      cases h
    · cases pc with
      | joining kind found =>
        simp only [hCall] at h
        obtain ⟨k, hFound, rfl⟩ := Option.map_eq_some_iff.mp h
        exact ⟨x, proxyName, found, k, rfl, hCall, hFound, rfl, rfl⟩
      | _ =>
        simp only [hCall] at h
        cases h
  | _ => cases h

theorem join_eq_none_of_creation {e : LifecycleEvent} {thread : ThreadKind × Nat}
    (h : s.core.creation e = some thread) : s.join e = none := by
  unfold ProxyLifecycle.creation at h
  unfold ThreadLedger.join
  cases e with
  | activator ok =>
    cases hPc : s.core.activator with
    | joining =>
      simp only [hPc] at h
      cases h
    | _ => rfl
  | _ => cases h

theorem handles_effect_of_creation {e : LifecycleEvent} {kind : ThreadKind} {k : Nat}
    (h : s.core.creation e = some (kind, k)) :
    (s.effect e).vars.handles kind = if e.ok then some k else none := by
  unfold ProxyLifecycle.creation at h
  simp only [effect, varsEffect]
  cases e with
  | activator ok =>
    cases hPc : s.core.activator with
    | subscribeCreating | channelCreating | aliveCreating =>
      simp only [hPc] at h
      cases h
      exact ActivatorVars.handles_create_self ..
    | _ =>
      simp only [hPc] at h
      cases h
  | _ => cases h

theorem handles_effect_of_keeps {e : LifecycleEvent} {kind : ThreadKind} {k : Nat}
    (h : s.core.activator.keeps kind = some k) :
    (s.effect e).vars.handles kind = s.vars.handles kind := by
  simp only [effect, varsEffect]
  cases e with
  | activator ok =>
    cases hPc : s.core.activator with
    | subscribeCreating =>
      rw [hPc] at h
      cases h
    | channelCreating | aliveCreating =>
      rw [hPc] at h
      cases kind <;> cases h <;> exact ActivatorVars.handles_create_ne _ (fun hEq => by cases hEq) _
    | _ => rfl
  | _ => rfl

structure Booked (s : ThreadLedger) : Prop where
  fresh : ∀ kind k, (kind, k) ∈ s.created →
    k < s.core.count ∧ (s.core.activator.creating = some k → s.core.activator.keeps kind = some k)
  joins : ∀ kind k, (kind, some k) ∈ s.joins → (kind, k) ∈ s.created
  once : ∀ kind k, s.joins.count (kind, some k) ≤ 1
  inHand : ∀ kind k, s.core.activator.keeps kind = some k → (kind, some k) ∉ s.joins ∧
    (s.vars.handles kind = some k ∧ (kind, k) ∈ s.created ∨
      s.vars.handles kind = none ∧ (kind, k) ∉ s.created ∧ s.core.activator.doubts kind = true)
  accounted : ∀ kind k, (kind, k) ∈ s.created → (kind, some k) ∈ s.joins ∨
    s.core.activator.keeps kind = some k ∨
      (s.core.tables kind).lookup (s.core.proxyName k) = some k
  registered : ∀ kind proxyName k, (s.core.tables kind).lookup proxyName = some k →
    (kind, k) ∈ s.created ∧ ((kind, some k) ∈ s.joins →
      ∃ x found, s.core.kills x = some ⟨proxyName, .removing kind found⟩)
  removing : ∀ x proxyName kind found, s.core.kills x = some ⟨proxyName, .removing kind found⟩ →
    ∃ k, found kind = some k ∧ (kind, some k) ∈ s.joins
  contexts : s.core.activator.activating = true →
    ∀ kind, s.vars.contexts kind = (s.core.activator.keeps kind).isSome

namespace Booked

theorem started : ThreadLedger.started.Booked where
  fresh _ _ h := nomatch h
  joins _ _ h := nomatch h
  once _ _ := Nat.zero_le _
  inHand _ _ h := nomatch h
  accounted _ _ h := nomatch h
  registered kind proxyName k h := by
    have hNone : (HashTable.empty : HashTable ProxyName Nat).lookup proxyName = some k := h
    rw [HashTable.lookup_empty] at hNone
    cases hNone
  removing _ _ _ _ h := nomatch h
  contexts h := nomatch h

/-- The thread that is joined is in the hands of the activator, or registered under the name of a call
that has found it. -/
theorem join_handle (h : s.Booked) (hCore : s.core.Consistent) {e : LifecycleEvent} {join : ThreadJoin}
    (hJoin : s.join e = some join) {k : Nat} (hk : join.handle = some k) :
    s.core.activator.keeps join.kind = some k ∧ (join.kind, k) ∈ s.created ∨
      ∃ x proxyName found, e = .kill x ∧
        s.core.kills x = some ⟨proxyName, .joining join.kind found⟩ ∧ found join.kind = some k ∧
        (s.core.tables join.kind).lookup proxyName = some k := by
  rcases join_cases hJoin with ⟨ok, j, last, ending, rfl, hPc, hContext, hHandle, -⟩ |
    ⟨x, proxyName, found, j, rfl, hCall, hFound, hHandle, -⟩
  · refine .inl ?_
    rw [h.contexts (by rw [hPc]; rfl)] at hContext
    obtain ⟨i, hi⟩ := Option.isSome_iff_exists.mp hContext
    rw [hHandle] at hk
    rcases (h.inHand join.kind i hi).2 with ⟨hMade, hCreated⟩ | ⟨hNone, -⟩
    · obtain rfl : i = k := Option.some.inj (hMade.symm.trans hk)
      exact ⟨hi, hCreated⟩
    · rw [hk] at hNone
      cases hNone
  · obtain rfl : j = k := Option.some.inj (hHandle.symm.trans hk)
    exact .inr ⟨x, proxyName, found, rfl, hCall, hFound, hCore.inTurn.held_joining hCall hFound⟩

theorem created_of_join (h : s.Booked) (hCore : s.core.Consistent) {e : LifecycleEvent}
    {join : ThreadJoin} (hJoin : s.join e = some join) {k : Nat} (hk : join.handle = some k) :
    (join.kind, k) ∈ s.created := by
  rcases h.join_handle hCore hJoin hk with ⟨-, hMade⟩ | ⟨x, proxyName, found, -, -, -, hEntry⟩
  · exact hMade
  · exact (h.registered join.kind proxyName k hEntry).1

theorem not_joined (h : s.Booked) (hCore : s.core.Consistent) {e : LifecycleEvent} {join : ThreadJoin}
    (hJoin : s.join e = some join) {k : Nat} (hk : join.handle = some k) :
    (join.kind, some k) ∉ s.joins := by
  rcases h.join_handle hCore hJoin hk with ⟨hKeeps, -⟩ | ⟨x, proxyName, found, -, hCall, -, hEntry⟩
  · exact (h.inHand join.kind k hKeeps).1
  · intro hJoined
    obtain ⟨y, found', hy⟩ := (h.registered join.kind proxyName k hEntry).2 hJoined
    obtain rfl := hCore.inTurn.unique hCall hy rfl rfl
    rw [hCall] at hy
    cases hy

theorem fresh_effect (h : s.Booked) (hCore : s.core.Consistent) {e : LifecycleEvent}
    (hGuard : e.guard s.core) {kind : ThreadKind} {k : Nat} (hMade : (kind, k) ∈ (s.effect e).created) :
    k < (s.effect e).core.count ∧ ((s.effect e).core.activator.creating = some k →
      (s.effect e).core.activator.keeps kind = some k) := by
  rcases (mem_created_effect ..).mp hMade with hOld | ⟨-, hCreation⟩
  · obtain ⟨hk, hKeeps⟩ := h.fresh kind k hOld
    refine ⟨Nat.lt_of_lt_of_le hk (s.core.count_le_effect e), fun hCreating => ?_⟩
    rcases ProxyLifecycle.creating_effect hCreating with hWas | rfl
    · rcases ProxyLifecycle.keeps_effect_or hCore.complete hGuard (hKeeps hWas) with
        hStill | ⟨-, ⟨j, last, ending, hPc⟩ | ⟨j, hPc⟩⟩
      · exact hStill
      · rw [hPc] at hWas
        cases hWas
      · rw [hPc] at hWas
        cases hWas
    · exact absurd hk (Nat.lt_irrefl _)
  · refine ⟨?_, fun _ => (ProxyLifecycle.keeps_of_creation hCreation).2.1⟩
    rcases ProxyLifecycle.number_of_creation hCreation with ⟨rfl, hCount⟩ | hCreating
    · exact hCount.symm ▸ Nat.lt_succ_self _
    · have hk := (hCore.numbered.creating k hCreating).1
      exact Nat.lt_of_lt_of_le (Nat.lt_of_succ_le (Nat.le_of_eq hk)) (s.core.count_le_effect e)

theorem joins_effect (h : s.Booked) (hCore : s.core.Consistent) {e : LifecycleEvent}
    {kind : ThreadKind} {k : Nat} (hJoined : (kind, some k) ∈ (s.effect e).joins) :
    (kind, k) ∈ (s.effect e).created := by
  refine (mem_created_effect ..).mpr (.inl ?_)
  rcases (mem_joins_effect ..).mp hJoined with hOld | ⟨join, hJoin, hEntry⟩
  · exact h.joins kind k hOld
  · obtain ⟨rfl, hHandle⟩ := Prod.mk.inj hEntry
    exact h.created_of_join hCore hJoin hHandle

theorem once_effect (h : s.Booked) (hCore : s.core.Consistent) (e : LifecycleEvent)
    (kind : ThreadKind) (k : Nat) : (s.effect e).joins.count (kind, some k) ≤ 1 := by
  have hOnce := h.once kind k
  simp only [effect, List.count_append]
  cases hJoin : s.join e with
  | none => exact hOnce
  | some join =>
    change s.joins.count (kind, some k) + [(join.kind, join.handle)].count (kind, some k) ≤ 1
    by_cases hEntry : (join.kind, join.handle) = (kind, some k)
    · obtain ⟨rfl, hHandle⟩ := Prod.mk.inj hEntry
      have hNone := List.count_eq_zero.mpr (h.not_joined hCore hJoin hHandle)
      rw [hNone, Nat.zero_add]
      exact List.count_le_length
    · rw [List.count_eq_zero.mpr fun hMem => hEntry (List.mem_singleton.mp hMem).symm]
      exact hOnce

theorem not_created_of_creation (h : s.Booked) {e : LifecycleEvent} {kind : ThreadKind} {k : Nat}
    (hCreation : s.core.creation e = some (kind, k)) : (kind, k) ∉ s.created := by
  intro hMade
  obtain ⟨hk, hKeeps⟩ := h.fresh kind k hMade
  rcases ProxyLifecycle.number_of_creation hCreation with ⟨rfl, -⟩ | hCreating
  · exact Nat.lt_irrefl _ hk
  · have hNone := (ProxyLifecycle.keeps_of_creation hCreation).1
    rw [hKeeps hCreating] at hNone
    cases hNone

theorem inHand_effect (h : s.Booked) (hCore : s.core.Consistent) {e : LifecycleEvent}
    {kind : ThreadKind} {k : Nat} (hKeeps : (s.effect e).core.activator.keeps kind = some k) :
    (kind, some k) ∉ (s.effect e).joins ∧
      ((s.effect e).vars.handles kind = some k ∧ (kind, k) ∈ (s.effect e).created ∨
        (s.effect e).vars.handles kind = none ∧ (kind, k) ∉ (s.effect e).created ∧
          (s.effect e).core.activator.doubts kind = true) := by
  rcases ProxyLifecycle.keeps_effect hCore.complete hKeeps with ⟨hWas, hStill⟩ | hCreation
  · obtain ⟨hNotJoined, hHandle⟩ := h.inHand kind k hWas
    refine ⟨fun hJoined => ?_, ?_⟩
    · rcases (mem_joins_effect ..).mp hJoined with hOld | ⟨join, hJoin, hEntry⟩
      · exact hNotJoined hOld
      · obtain ⟨rfl, hJoinHandle⟩ := Prod.mk.inj hEntry
        rcases join_cases hJoin with ⟨ok, j, last, ending, rfl, hPc, -⟩ |
          ⟨x, proxyName, found, j, -, hCall, hFound, hFoundHandle, -⟩
        · exact hStill ⟨⟨ok, rfl⟩, .inl ⟨j, last, ending, hPc⟩⟩
        · obtain rfl : j = k := Option.some.inj (hFoundHandle.symm.trans hJoinHandle)
          exact hCore.inTurn.not_registered hCore.numbered hWas proxyName
            (hCore.inTurn.held_joining hCall hFound)
    · rw [handles_effect_of_keeps hWas]
      refine hHandle.imp ?_ ?_
      · rintro ⟨hMade, hCreated⟩
        exact ⟨hMade, (mem_created_effect ..).mpr (.inl hCreated)⟩
      · rintro ⟨hNone, hNot, hDoubts⟩
        refine ⟨hNone, fun hMade => ?_, ProxyLifecycle.doubts_effect hDoubts hKeeps⟩
        rcases (mem_created_effect ..).mp hMade with hOld | ⟨-, hCreation⟩
        · exact hNot hOld
        · rw [(ProxyLifecycle.keeps_of_creation hCreation).1] at hWas
          cases hWas
  · have hNot := h.not_created_of_creation hCreation
    refine ⟨fun hJoined => ?_, ?_⟩
    · rcases (mem_joins_effect ..).mp hJoined with hOld | ⟨join, hJoin, -⟩
      · exact hNot (h.joins kind k hOld)
      · rw [join_eq_none_of_creation hCreation] at hJoin
        cases hJoin
    · rw [handles_effect_of_creation hCreation]
      cases hOk : e.ok with
      | true => exact .inl ⟨rfl, (mem_created_effect ..).mpr (.inr ⟨hOk, hCreation⟩)⟩
      | false =>
        refine .inr ⟨rfl, fun hMade => ?_, (ProxyLifecycle.keeps_of_creation hCreation).2.2 hOk⟩
        rcases (mem_created_effect ..).mp hMade with hOld | ⟨hMade, -⟩
        · exact hNot hOld
        · rw [hOk] at hMade
          cases hMade

theorem released (h : s.Booked) {e : LifecycleEvent}
    {kind : ThreadKind} {k : Nat} (hMade : (kind, k) ∈ s.created)
    (hKeeps : s.core.activator.keeps kind = some k) (hReleases : s.core.Releases e kind) :
    (kind, some k) ∈ (s.effect e).joins ∨
      ((s.effect e).core.tables kind).lookup ((s.effect e).core.proxyName k) = some k := by
  have hNumber := ActivatorPc.number_of_keeps hKeeps
  obtain ⟨⟨ok, rfl⟩, ⟨j, last, ending, hPc⟩ | ⟨j, hPc⟩⟩ := hReleases
  · refine .inl ((mem_joins_effect ..).mpr (.inr ?_))
    have hContext := h.contexts (by rw [hPc]; rfl) kind
    rw [hKeeps] at hContext
    have hHandle : s.vars.handles kind = some k := by
      rcases (h.inHand kind k hKeeps).2 with ⟨hHandle, -⟩ | ⟨-, hNot, -⟩
      · exact hHandle
      · exact absurd hMade hNot
    refine ⟨⟨kind, some k, .undoing j⟩, ?_, rfl⟩
    simp only [ThreadLedger.join, hPc, hContext, hHandle, Option.isSome_some, if_true]
  · refine .inr ?_
    rw [hPc] at hNumber
    obtain rfl := Option.some.inj hNumber
    simp only [effect, LifecycleEvent.effect, ProxyLifecycle.activatorEffect, hPc]
    rw [ProxyLifecycle.tables_tableSet_self]
    exact HashTable.lookup_insert_self ..

theorem accounted_effect (h : s.Booked) (hCore : s.core.Consistent) {e : LifecycleEvent}
    (hGuard : e.guard s.core) {kind : ThreadKind} {k : Nat} (hMade : (kind, k) ∈ (s.effect e).created) :
    (kind, some k) ∈ (s.effect e).joins ∨ (s.effect e).core.activator.keeps kind = some k ∨
      ((s.effect e).core.tables kind).lookup ((s.effect e).core.proxyName k) = some k := by
  rcases (mem_created_effect ..).mp hMade with hOld | ⟨-, hCreation⟩
  · rcases h.accounted kind k hOld with hJoined | hKeeps | hEntry
    · exact .inl ((mem_joins_effect ..).mpr (.inl hJoined))
    · rcases ProxyLifecycle.keeps_effect_or hCore.complete hGuard hKeeps with hStill | hReleases
      · exact .inr (.inl hStill)
      · exact (h.released hOld hKeeps hReleases).imp_right .inr
    · have hName : (s.effect e).core.proxyName k = s.core.proxyName k :=
        ProxyLifecycle.proxyName_effect (h.fresh kind k hOld).1 e
      rw [hName]
      rcases ProxyLifecycle.lookup_effect_or (e := e) hEntry with
        hStays | ⟨x, ⟨proxyName, pc⟩, found, -, hCall, rfl, rfl⟩ | ⟨ok, j, -, hSetting, hSet⟩
      · exact .inr (.inr hStays)
      · -- a call removes an entry after it has joined its thread
        obtain ⟨j, hFound, hJoined⟩ := h.removing x _ kind found hCall
        have hHeld := hCore.inTurn.held x _ kind j hCall ((KillPc.holds_removing_self ..).trans hFound)
        obtain rfl : j = k := Option.some.inj (hHeld.symm.trans hEntry)
        exact .inl ((mem_joins_effect ..).mpr (.inl hJoined))
      · rw [← hSet, hCore.inTurn.vacant_setting hSetting (Nat.le_refl _)] at hEntry
        cases hEntry
  · exact .inr (.inl (ProxyLifecycle.keeps_of_creation hCreation).2.1)

theorem kills_effect_of_inside (hCore : s.core.Consistent) {e : LifecycleEvent} (hGuard : e.guard s.core)
    {x : Killer} {call : KillCall} (hCall : s.core.kills x = some call) (hOther : e ≠ .kill x) :
    (s.effect e).core.kills x = some call := by
  refine (ProxyLifecycle.kills_effect_of_ne (fun hKiller => ?_) hOther).trans hCall
  rw [hCore.calling.outside hGuard hKiller] at hCall
  cases hCall

theorem registered_effect (h : s.Booked) (hCore : s.core.Consistent) {e : LifecycleEvent}
    (hGuard : e.guard s.core) {kind : ThreadKind} {proxyName : ProxyName} {k : Nat}
    (hEntry : ((s.effect e).core.tables kind).lookup proxyName = some k) :
    (kind, k) ∈ (s.effect e).created ∧ ((kind, some k) ∈ (s.effect e).joins →
      ∃ x found, (s.effect e).core.kills x = some ⟨proxyName, .removing kind found⟩) := by
  rcases ProxyLifecycle.lookup_effect hEntry with hOld | ⟨⟨ok, rfl⟩, hSetting, rfl⟩
  · obtain ⟨hMade, hRemoving⟩ := h.registered kind proxyName k hOld
    refine ⟨(mem_created_effect ..).mpr (.inl hMade), fun hJoined => ?_⟩
    rcases (mem_joins_effect ..).mp hJoined with hWas | ⟨join, hJoin, hJoinEntry⟩
    · obtain ⟨x, found, hCall⟩ := hRemoving hWas
      by_cases hKill : e = .kill x
      · -- the entry would be gone
        subst hKill
        change (((LifecycleEvent.kill x).effect s.core).tables kind).lookup proxyName = some k at hEntry
        rw [ProxyLifecycle.effect_kill hCall] at hEntry
        simp only [ProxyLifecycle.killEffect] at hEntry
        change ((s.core.tableSet kind ((s.core.tables kind).remove proxyName)).tables kind).lookup
          proxyName = some k at hEntry
        rw [ProxyLifecycle.tables_tableSet_self, HashTable.lookup_remove_self] at hEntry
        cases hEntry
      · exact ⟨x, found, kills_effect_of_inside hCore hGuard hCall hKill⟩
    · obtain ⟨rfl, hHandle⟩ := Prod.mk.inj hJoinEntry
      rcases h.join_handle hCore hJoin hHandle with
        ⟨hKeeps, -⟩ | ⟨x, name, found, rfl, hCall, hFound, hFoundEntry⟩
      · exact absurd hOld (hCore.inTurn.not_registered hCore.numbered hKeeps proxyName)
      · obtain rfl : name = proxyName := by
          rw [← (hCore.numbered.tables _ name k hFoundEntry).2]
          exact (hCore.numbered.tables _ proxyName k hOld).2
        refine ⟨x, found, ?_⟩
        simp only [effect, ProxyLifecycle.effect_kill hCall, ProxyLifecycle.killEffect, hFound,
          Option.isSome_some, if_true, ProxyLifecycle.kills_setKill_self]
  · have hKeeps : s.core.activator.keeps kind = some k := by
      rw [hSetting]
      exact if_pos (Nat.le_refl _)
    obtain ⟨hNotJoined, hHandle⟩ := h.inHand kind k hKeeps
    refine ⟨(mem_created_effect ..).mpr (.inl ?_), fun hJoined => ?_⟩
    · rcases hHandle with ⟨-, hMade⟩ | ⟨-, -, hDoubts⟩
      · exact hMade
      · rw [hSetting] at hDoubts
        cases hDoubts
    · rcases (mem_joins_effect ..).mp hJoined with hOld | ⟨join, hJoin, -⟩
      · exact absurd hOld hNotJoined
      · simp only [ThreadLedger.join, hSetting] at hJoin
        cases hJoin

theorem removing_effect (h : s.Booked) {e : LifecycleEvent} (hGuard : e.guard s.core)
    {x : Killer} {proxyName : ProxyName} {kind : ThreadKind} {found : Found}
    (hCall : (s.effect e).core.kills x = some ⟨proxyName, .removing kind found⟩) :
    ∃ k, found kind = some k ∧ (kind, some k) ∈ (s.effect e).joins := by
  rcases ProxyLifecycle.kills_effect hGuard hCall with hOld | ⟨hPc, -⟩ |
    ⟨⟨name, pc⟩, rfl, hOld, hEffect, -⟩
  · obtain ⟨k, hFound, hJoined⟩ := h.removing x proxyName kind found hOld
    exact ⟨k, hFound, (mem_joins_effect ..).mpr (.inl hJoined)⟩
  · cases hPc
  · change ((LifecycleEvent.kill x).effect s.core).kills x = _ at hCall
    rw [hEffect] at hCall
    cases pc with
    | locking | unlocking =>
      simp only [ProxyLifecycle.killEffect, ProxyLifecycle.kills_setKill_self] at hCall
      cases hCall
    | getting next found' =>
      simp only [ProxyLifecycle.killEffect, ProxyLifecycle.kills_setKill_self] at hCall
      cases next <;> cases hCall
    | removing next found' =>
      simp only [ProxyLifecycle.killEffect, ProxyLifecycle.kills_setKill_self] at hCall
      cases next <;> cases hCall
    | joining next found' =>
      simp only [ProxyLifecycle.killEffect, ProxyLifecycle.kills_setKill_self] at hCall
      cases hFound : found' next with
      | none =>
        simp only [hFound] at hCall
        cases next <;> cases hCall
      | some k =>
        simp only [hFound] at hCall
        cases hCall
        refine ⟨k, hFound, (mem_joins_effect ..).mpr (.inr ?_)⟩
        refine ⟨⟨kind, some k, .killing proxyName⟩, ?_, rfl⟩
        simp only [ThreadLedger.join, hOld, hFound, Option.map_some]

theorem contexts_activatorEffect (h : s.Booked) {ok : Bool}
    (hGuard : (LifecycleEvent.activator ok).guard s.core)
    (hActivating : s.core.activator.activating = true ∨
      (s.effect (.activator ok)).core.activator.activating = true) (kind : ThreadKind) :
    (s.effect (.activator ok)).vars.contexts kind =
      ((s.effect (.activator ok)).core.activator.keeps kind).isSome := by
  have hContexts := h.contexts
  simp only [effect, varsEffect, LifecycleEvent.effect, ProxyLifecycle.activatorEffect]
    at hActivating ⊢
  cases hPc : s.core.activator with
  | checking proxyName =>
    simp only [ActivatorVars.clear]
    split <;> rfl
  | killing proxyName =>
    rw [hPc] at hContexts
    dsimp only
    split <;> exact hContexts rfl kind
  | subscribeCreating | channelCreating | aliveCreating =>
    rw [hPc] at hContexts
    simp only [ActivatorVars.contexts_create, hContexts rfl]
    cases ok <;> cases kind <;> rfl
  | stopping j last ending =>
    rw [hPc] at hContexts
    rw [hContexts rfl]
    cases last <;> cases kind <;> rfl
  | joining next j last ending =>
    rw [hPc] at hContexts
    simp only [ActivatorVars.contexts_destroy, hContexts rfl]
    cases next <;> cases last <;> cases ending <;> cases kind <;> rfl
  | setting next j =>
    simp only [hPc] at hActivating
    cases next <;> cases hActivating.elim id id
  | waking | notifying =>
    simp only [hPc] at hActivating
    cases hActivating.elim id id
  | idle | dying | responding | ended =>
    have hEnabled : s.core.activatorEnabled = true := hGuard
    simp [ProxyLifecycle.activatorEnabled, hPc] at hEnabled

theorem vars_effect_of_ne {e : LifecycleEvent} (h : ∀ ok, e ≠ .activator ok) :
    (s.effect e).vars = s.vars := by
  cases e with
  | activator ok => exact absurd rfl (h ok)
  | _ => rfl

theorem contexts_effect (h : s.Booked) (hCore : s.core.Consistent) {e : LifecycleEvent}
    (hGuard : e.guard s.core)
    (hActivating : s.core.activator.activating = true ∨ (s.effect e).core.activator.activating = true)
    (kind : ThreadKind) :
    (s.effect e).vars.contexts kind = ((s.effect e).core.activator.keeps kind).isSome := by
  by_cases hKiller : e.killer = some .activator
  · cases e with
    | request =>
      rw [(of_decide_eq_true hGuard).1] at hActivating
      cases hActivating.elim id id
    | activator ok => exact h.contexts_activatorEffect hGuard hActivating kind
    | respond outcome =>
      have hKeeps := ProxyLifecycle.keeps_respond hCore.complete outcome kind
      refine (h.contexts ?_ kind).trans (congrArg Option.isSome hKeeps.symm)
      have hWaiting := (Bool.and_eq_true_iff.mp hGuard).1
      unfold ProxyLifecycle.respondEnabled at hWaiting
      cases hPc : s.core.activator with
      | dying | responding => rfl
      | _ => simp [hPc] at hWaiting
    | kill | terminator | killAll | main | alive | exit => cases hKiller
  · have hActivator : (s.effect e).core.activator = s.core.activator :=
      ProxyLifecycle.activator_effect hKiller
    rw [hActivator] at hActivating ⊢
    rw [vars_effect_of_ne (e := e) fun _ hEq => hKiller (by rw [hEq]; rfl)]
    exact h.contexts (hActivating.elim id id) kind

theorem effect (h : s.Booked) (hCore : s.core.Consistent) (e : LifecycleEvent)
    (hGuard : s.guard e) : (s.effect e).Booked where
  fresh _ _ hMade := h.fresh_effect hCore hGuard.1 hMade
  joins _ _ hJoined := h.joins_effect hCore hJoined
  once := h.once_effect hCore e
  inHand _ _ hKeeps := h.inHand_effect hCore hKeeps
  accounted _ _ hMade := h.accounted_effect hCore hGuard.1 hMade
  registered _ _ _ hEntry := h.registered_effect hCore hGuard.1 hEntry
  removing _ _ _ _ hCall := h.removing_effect hGuard.1 hCall
  contexts hActivating := h.contexts_effect hCore hGuard.1 (.inr hActivating)

theorem of_reachable {cond : ThreadLedger → LifecycleEvent → Prop}
    (h : threadLedgerSystem.ReachableWhen cond s) : s.Booked := by
  apply h.invariant_with fun s hReach => ProxyLifecycle.Consistent.of_reachable (reachable_core hReach)
  · rintro s rfl
    exact started
  · exact fun s e hCore hBooked hGuard _ => hBooked.effect hCore e hGuard

end Booked

end ThreadLedger

end Gonggo
