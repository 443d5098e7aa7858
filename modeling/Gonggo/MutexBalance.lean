import Gonggo.ChannelCalls

/-! # Whether the calls of proxychannel.c give the lock back

The wait for the idle channel always returns with the lock. Its callers unlock after the exchange,
or after the stop request, that they wanted the channel for, and not when the wait gave up.
-/

namespace Gonggo

open LockAction

/-- The proxy dies with the lock, or the channel is terminated, while a request waits for its
answer. -/
def RequestRun.EndsExchange (run : RequestRun) : Prop :=
  run.servicePayload.isSome ∧ run.created ∧
    (run.answered.result = .ownerDead ∨ run.answered.state = .channelTermination)

/-- No wait of an exchange for the idle channel gives up, as far as the exchange gets. -/
def NeverRefused : List RequestRun → Prop
  | [] => True
  | run :: rest =>
      ¬ (run.servicePayload.isSome ∧ run.idle.Refuses) ∧ (¬ run.EndsExchange → NeverRefused rest)

/-- The same for the rounds of a channel thread. -/
def RoundsNeverRefused : List RoundRun → Prop
  | [] => True
  | run :: rest =>
      (run.terminating = true → ¬ run.idle.Refuses) ∧
        (run.terminating = false → NeverRefused run.requests ∧
          ((∀ request ∈ run.requests, ¬ request.EndsExchange) → RoundsNeverRefused rest))

namespace RequestRun

theorem refused_of_exchange {run : RequestRun} (h : run.servicePayload.isSome ∧ run.idle.Refuses) :
    run.exchange.1 = false ∧ Leaks run.exchange.2 := by
  obtain ⟨text, hText⟩ := Option.isSome_iff_exists.mp h.1
  have hIdle : ¬ (proxyChannelIdleWait run.idle).1 = true :=
    fun hTrue => (proxyChannelIdleWait_iff run.idle).mp hTrue h.2
  simp only [exchange, hText, if_neg hIdle]
  exact ⟨trivial, leaks_proxyChannelIdleWait run.idle⟩

theorem served_of_exchange {run : RequestRun} (h : ¬ (run.servicePayload.isSome ∧ run.idle.Refuses)) :
    (run.exchange.1 = true ↔ ¬ run.EndsExchange) ∧ Balanced run.exchange.2 := by
  cases hText : run.servicePayload with
  | none => simp [exchange, EndsExchange, hText, balanced_nil]
  | some text =>
    have hIdle : (proxyChannelIdleWait run.idle).1 = true :=
      (proxyChannelIdleWait_iff run.idle).mpr fun hRefuses => h ⟨by rw [hText]; rfl, hRefuses⟩
    have hLeaks := leaks_proxyChannelIdleWait run.idle
    simp only [exchange, EndsExchange, hText, if_pos hIdle]
    cases run.created with
    | true => exact ⟨by simp, hLeaks.wait_unlock⟩
    | false => exact ⟨by simp, hLeaks.unlock⟩

end RequestRun

/-- An exchange goes through all its requests unless one of them ends it. -/
theorem proxyChannelExchange_alive {requests : List RequestRun} (h : NeverRefused requests) :
    (proxyChannelExchange requests).1 = true ↔ ∀ run ∈ requests, ¬ run.EndsExchange := by
  induction requests with
  | nil => simp [proxyChannelExchange]
  | cons run rest ih =>
    have hAlive := (RequestRun.served_of_exchange h.1).1
    unfold proxyChannelExchange
    split
    · rename_i hGoesOn
      have hNot := hAlive.mp hGoesOn
      simpa [hNot] using ih (h.2 hNot)
    · rename_i hStops
      have hEnds : run.EndsExchange := not_not.mp fun hNot => hStops (hAlive.mpr hNot)
      simp [hStops, hEnds]

/-- An exchange that is refused once ends there, with the lock. -/
theorem refused_of_proxyChannelExchange {requests : List RequestRun} (h : ¬ NeverRefused requests) :
    (proxyChannelExchange requests).1 = false ∧ Leaks (proxyChannelExchange requests).2 := by
  induction requests with
  | nil => exact absurd trivial h
  | cons run rest ih =>
    by_cases hRefused : run.servicePayload.isSome ∧ run.idle.Refuses
    · have hEnd := RequestRun.refused_of_exchange hRefused
      rw [proxyChannelExchange, if_neg (by simp [hEnd.1])]
      exact hEnd
    · obtain ⟨hAlive, hBalanced⟩ := RequestRun.served_of_exchange hRefused
      have hLater : ¬ run.EndsExchange ∧ ¬ NeverRefused rest := by
        rw [← Classical.not_imp]
        exact fun hRest => h ⟨hRefused, hRest⟩
      obtain ⟨hStops, hLeaks⟩ := ih hLater.2
      rw [proxyChannelExchange, if_pos (hAlive.mpr hLater.1)]
      exact ⟨hStops, hLeaks.append hBalanced⟩

theorem balanced_proxyChannelExchange (requests : List RequestRun) :
    Balanced (proxyChannelExchange requests).2 ↔ NeverRefused requests := by
  refine ⟨fun h => not_not.mp fun hNot => (refused_of_proxyChannelExchange hNot).2.unbalanced h, ?_⟩
  induction requests with
  | nil => exact fun _ => balanced_nil
  | cons run rest ih =>
    rintro ⟨hServed, hRest⟩
    obtain ⟨hAlive, hBalanced⟩ := RequestRun.served_of_exchange hServed
    unfold proxyChannelExchange
    split
    · rename_i hGoesOn
      exact (hBalanced.append_iff _).mpr (ih (hRest (hAlive.mp hGoesOn)))
    · exact hBalanced

theorem balanced_proxyChannel (rounds : List RoundRun) :
    Balanced (proxyChannel rounds) ↔ RoundsNeverRefused rounds := by
  induction rounds with
  | nil => exact iff_of_true balanced_nil trivial
  | cons run rest ih =>
    unfold proxyChannel RoundsNeverRefused
    cases run.terminating with
    | true =>
      have hLeaks := leaks_proxyChannelIdleWait run.idle
      have hIdle := proxyChannelIdleWait_iff run.idle
      simp only [if_true, forall_const, reduceCtorEq, false_implies, and_true]
      split
      · rename_i hProceeds
        exact iff_of_true hLeaks.unlock (hIdle.mp hProceeds)
      · rename_i hRefused
        exact iff_of_false hLeaks.unbalanced fun hNot => hRefused (hIdle.mpr hNot)
    | false =>
      have hExchange := balanced_proxyChannelExchange run.requests
      simp only [reduceCtorEq, if_false, false_implies, true_and, forall_const]
      by_cases hNever : NeverRefused run.requests
      · have hAlive := proxyChannelExchange_alive hNever
        have hBalanced := hExchange.mpr hNever
        split
        · rename_i hGoesOn
          rw [hBalanced.append_iff, ih]
          exact ⟨fun hRest => ⟨hNever, fun _ => hRest⟩, fun h => h.2 (hAlive.mp hGoesOn)⟩
        · rename_i hStops
          exact iff_of_true hBalanced ⟨hNever, fun hNone => absurd (hAlive.mpr hNone) hStops⟩
      · obtain ⟨hStops, hLeaks⟩ := refused_of_proxyChannelExchange hNever
        rw [if_neg (by simp [hStops])]
        exact iff_of_false hLeaks.unbalanced fun h => hNever h.1

theorem trace_of_proxyChannelRest {library : JsonLibrary} {run : RestRun} {returned : RestReturn}
    (h : proxyChannelRest library run = some returned) :
    Balanced returned.trace ↔ ¬ run.idle.Refuses := by
  have hLeaks := leaks_proxyChannelIdleWait run.idle
  rw [← proxyChannelIdleWait_iff]
  simp only [proxyChannelRest] at h
  split at h
  · rename_i hIdle
    refine iff_of_true ?_ hIdle
    split at h
    · split at h
      · cases h
        exact hLeaks.wait_unlock
      · split at h
        · split at h
          · cases h
            exact hLeaks.wait_unlock
          · obtain ⟨respond, -, rfl⟩ := Option.map_eq_some_iff.mp h
            exact hLeaks.wait_unlock
        · cases h
          exact hLeaks.wait_unlock
    · cases h
      exact hLeaks.unlock
  · rename_i hIdle
    cases h
    exact iff_of_false hLeaks.unbalanced hIdle

/-- The calls give the lock back, and use it only while they hold it, exactly when no wait for the
idle channel that they get to gives up. -/
theorem channelCalls_balanced_iff (library : JsonLibrary) :
    (∀ requests, Balanced (proxyChannelExchange requests).2 ↔ NeverRefused requests) ∧
    (∀ run returned, proxyChannelRest library run = some returned →
      (Balanced returned.trace ↔ ¬ run.idle.Refuses)) ∧
    ∀ rounds, Balanced (proxyChannel rounds) ↔ RoundsNeverRefused rounds :=
  ⟨balanced_proxyChannelExchange, fun _ _ => trace_of_proxyChannelRest, balanced_proxyChannel⟩

/-- The proxy has died with the lock before the first request. -/
def diedWithLock : RequestRun where
  servicePayload := some "service"
  idle := ⟨⟨.ownerDead, .channelDone⟩, ⟨.zero, .channelIdle⟩⟩
  created := true
  answered := ⟨.zero, .channelAcknowledged⟩

theorem not_channelCalls_balanced :
    ¬ ∀ requests, Balanced (proxyChannelExchange requests).2 :=
  fun h => absurd (h [diedWithLock]) (by decide)

end Gonggo
