import Gonggo.ProxyChannel

/-! # Exclusive use of the channel

When a dispatcher thread may write a request into the shared segment. A thread that
`proxy_channel_idle_wait` puts to sleep does not look at the state again when it is woken, so the
idle channel must still be there for it.
-/

namespace Gonggo

namespace ProxyChannel

/-- The step passes `proxy_channel_idle_wait` and writes the request of the thread: the length of
the payload and, unless the segment cannot be made, the id and the state. -/
def WritesRequest (s : ProxyChannel) : ProxyChannelEvent → Prop
  | .channel (.idleLock _ _) => s.shm.idleWaitLocked = .proceed
  | .channel (.idleRelock _ _) => s.shm.idleWaitWoken = .proceed
  | .worker _ (.idleLock _ _ _) => s.shm.idleWaitLocked = .proceed
  | .worker _ (.idleRelock _ _ _) => s.shm.idleWaitWoken = .proceed
  | _ => False

/-- Woken on `idle`, the lock not yet taken again. -/
def WokenOnIdle (s : ProxyChannel) (t : ChannelThread) : Prop :=
  s.idleWaiting t = true ∧ t ∉ s.shm.idle

/-- The step takes the idle channel for a new exchange. -/
def TakesIdle (s : ProxyChannel) : ProxyChannelEvent → Prop
  | .channel (.idleLock job created) =>
      s.shm.idleWaitLocked = .proceed ∧ (job = .stopRequest ∨ created = true)
  | .worker _ (.idleLock _ _ created) => s.shm.idleWaitLocked = .proceed ∧ created = true
  | _ => False

/-- A thread takes the idle channel although another one was woken for it. -/
def Overtakes (s : ProxyChannel) (e : ProxyChannelEvent) : Prop :=
  s.TakesIdle e ∧ ∃ t, s.WokenOnIdle t

/-- Waits on `idle` return only after a signal, and no thread overtakes a woken one. -/
def InTurn (s : ProxyChannel) (e : ProxyChannelEvent) : Prop :=
  ¬ s.Overtakes e ∧ ∀ t, e = .spurious t → t ∉ s.shm.idle

theorem idleWaitLocked_eq_proceed {shm : ProxyChannelShm} (h : shm.idleWaitLocked = .proceed) :
    shm.state = .channelIdle := by
  unfold ProxyChannelShm.idleWaitLocked at h
  split_ifs at h with _ _ hIdle
  exact not_not.mp hIdle

theorem idleWaitWoken_eq_proceed {shm : ProxyChannelShm} (h : shm.idleWaitWoken = .proceed) :
    shm.state ≠ .channelTermination := by
  unfold ProxyChannelShm.idleWaitWoken at h
  split_ifs at h with _ hTermination
  exact hTermination

/-- Who was woken on `idle` was woken for an idle or a terminated channel, and for an idle channel
only one was. -/
structure Handover (s : ProxyChannel) : Prop where
  state : ∀ t, s.WokenOnIdle t → s.shm.state = .channelIdle ∨ s.shm.state = .channelTermination
  unique : s.shm.state = .channelIdle → ∀ t u, s.WokenOnIdle t → s.WokenOnIdle u → t = u

namespace Handover

variable {s s' : ProxyChannel}

theorem of_woken (h : s.Handover) (hState : s'.shm.state = s.shm.state)
    (hWoken : ∀ t, s'.WokenOnIdle t → s.WokenOnIdle t) : s'.Handover where
  state t ht := hState ▸ h.state t (hWoken t ht)
  unique hIdle t u ht hu := h.unique (hState ▸ hIdle) t u (hWoken t ht) (hWoken u hu)

theorem of_nobody (h : ∀ t, ¬ s'.WokenOnIdle t) : s'.Handover where
  state t ht := absurd ht (h t)
  unique _ t _ ht := absurd ht (h t)

theorem nobody (h : s.Handover) (hIdle : s.shm.state ≠ .channelIdle)
    (hTermination : s.shm.state ≠ .channelTermination) (t : ChannelThread) : ¬ s.WokenOnIdle t :=
  fun ht => (h.state t ht).elim hIdle hTermination

/-! ### Steps -/

/-- A step of the thread `t` that leaves it unwoken keeps the handover when it keeps the state, or
when nobody else was woken. -/
theorem of_step (h : s.Handover) (t : ChannelThread) (hSelf : ¬ s'.WokenOnIdle t)
    (hOthers : ∀ u, u ≠ t → s'.WokenOnIdle u → s.WokenOnIdle u)
    (hState : s'.shm.state = s.shm.state ∨ ∀ u, u ≠ t → ¬ s.WokenOnIdle u) : s'.Handover := by
  have hWoken : ∀ u, s'.WokenOnIdle u → u ≠ t ∧ s.WokenOnIdle u := by
    intro u hu
    have hNe : u ≠ t := by
      rintro rfl
      exact hSelf hu
    exact ⟨hNe, hOthers u hNe hu⟩
  rcases hState with hState | hNobody
  · exact h.of_woken hState fun u hu => (hWoken u hu).2
  · exact of_nobody fun u hu => hNobody u (hWoken u hu).1 (hWoken u hu).2

theorem of_channel (h : s.Handover) (hWorkers : s'.workers = s.workers)
    (hIdle : ∀ u ∈ s.shm.idle, u ∈ s'.shm.idle)
    (hSelf : s'.channel.isWaiting = true → ChannelThread.channel ∈ s'.shm.idle)
    (hState : s'.shm.state = s.shm.state ∨ ∀ u, u ≠ .channel → ¬ s.WokenOnIdle u) :
    s'.Handover := by
  refine h.of_step .channel (fun hWoken => hWoken.2 (hSelf hWoken.1)) ?_ hState
  rintro u hNe ⟨hWaiting, hNot⟩
  refine ⟨?_, fun hMem => hNot (hIdle u hMem)⟩
  cases u with
  | channel => exact absurd rfl hNe
  | worker n =>
    rw [idleWaiting, hWorkers] at hWaiting
    exact hWaiting
  | killer => cases hWaiting
  | proxy => cases hWaiting

theorem of_worker (h : s.Handover) (n : Nat) (pc : WorkerPc) (hChannel : s'.channel = s.channel)
    (hWorkers : s'.workers = Function.update s.workers n pc) (hIdle : ∀ u ∈ s.shm.idle, u ∈ s'.shm.idle)
    (hSelf : pc.isWaiting = true → ChannelThread.worker n ∈ s'.shm.idle)
    (hState : s'.shm.state = s.shm.state ∨ ∀ u, u ≠ .worker n → ¬ s.WokenOnIdle u) :
    s'.Handover := by
  refine h.of_step (.worker n) ?_ ?_ hState
  · rintro ⟨hWaiting, hNot⟩
    rw [idleWaiting, hWorkers, Function.update_self] at hWaiting
    exact hNot (hSelf hWaiting)
  · rintro u hNe ⟨hWaiting, hNot⟩
    refine ⟨?_, fun hMem => hNot (hIdle u hMem)⟩
    cases u with
    | channel =>
      rw [idleWaiting, hChannel] at hWaiting
      exact hWaiting
    | worker m =>
      rw [idleWaiting, hWorkers, Function.update_of_ne fun hEq => hNe (by rw [hEq])] at hWaiting
      exact hWaiting
    | killer => cases hWaiting
    | proxy => cases hWaiting

theorem nobody_of_relock (h : s.Handover) {t : ChannelThread} (ht : s.WokenOnIdle t)
    (hProceed : s.shm.idleWaitWoken = .proceed) (u : ChannelThread) (hNe : u ≠ t) :
    ¬ s.WokenOnIdle u := by
  intro hu
  have hIdle := (h.state t ht).resolve_right (idleWaitWoken_eq_proceed hProceed)
  exact hNe (h.unique hIdle u t hu ht)

theorem channelIdleWait (h : s.Handover) (outcome : IdleWait) (job : ChannelJob) (created : Bool)
    (hProceed : outcome = .proceed → job = .stopRequest ∨ created = true →
      ∀ u, u ≠ .channel → ¬ s.WokenOnIdle u) :
    (s.channelIdleWait outcome job created).Handover := by
  cases outcome with
  | sleep =>
    refine h.of_channel rfl (fun u hu => List.mem_append_left _ hu) ?_ (.inl rfl)
    exact fun _ => List.mem_append_right _ (List.mem_singleton_self _)
  | refused =>
    refine h.of_channel rfl (fun u hu => hu) ?_ (.inl rfl)
    cases job <;> exact fun hWaiting => by cases hWaiting
  | proceed =>
    cases job with
    | stopRequest =>
      exact h.of_channel rfl (fun u hu => hu) (fun hWaiting => by cases hWaiting)
        (.inr (hProceed rfl (.inl rfl)))
    | request rid text pending =>
      cases created with
      | true =>
        exact h.of_channel rfl (fun u hu => hu) (fun hWaiting => by cases hWaiting)
          (.inr (hProceed rfl (.inr rfl)))
      | false =>
        exact h.of_channel rfl (fun u hu => hu) (fun hWaiting => by cases hWaiting) (.inl rfl)

theorem workerIdleWait (h : s.Handover) (n : Nat) (outcome : IdleWait) (rid : Rid) (text : String)
    (created : Bool)
    (hProceed : outcome = .proceed → created = true → ∀ u, u ≠ .worker n → ¬ s.WokenOnIdle u) :
    (s.workerIdleWait n outcome rid text created).Handover := by
  cases outcome with
  | sleep =>
    refine h.of_worker n (.waiting rid text) rfl rfl (fun u hu => List.mem_append_left _ hu) ?_
      (.inl rfl)
    exact fun _ => List.mem_append_right _ (List.mem_singleton_self _)
  | refused =>
    exact h.of_worker n .tableUnlocking rfl rfl (fun u hu => hu) (fun hWaiting => by cases hWaiting)
      (.inl rfl)
  | proceed =>
    cases created with
    | true =>
      exact h.of_worker n .answering rfl rfl (fun u hu => hu) (fun hWaiting => by cases hWaiting)
        (.inr (hProceed rfl rfl))
    | false =>
      exact h.of_worker n .tableUnlocking rfl rfl (fun u hu => hu)
        (fun hWaiting => by cases hWaiting) (.inl rfl)

theorem channelAnswer (h : s.Handover) (rid : Rid) (pending : List Rid) :
    (s.channelAnswer rid pending).Handover := by
  unfold ProxyChannel.channelAnswer
  split_ifs with hEnded hAnswered
  · exact h.of_channel rfl (fun u hu => hu) (fun hWaiting => by cases hWaiting) (.inl rfl)
  · refine h.of_channel rfl (fun u hu => hu) (fun hWaiting => by cases hWaiting) (.inr fun u _ => ?_)
    apply h.nobody
    · rcases hAnswered with hState | hState <;> rw [hState] <;> decide
    · exact fun hState => hEnded (.inr hState)
  · exact h.of_channel rfl (fun u hu => hu) (fun hWaiting => by cases hWaiting) (.inl rfl)

theorem channelEffect (h : s.Handover) (proxyName : ProxyName) (e : ChannelEvent)
    (hGuard : s.channelGuard e) (hTurn : s.InTurn (.channel e)) :
    (s.channelEffect proxyName e).Handover := by
  cases e with
  | idleLock job created =>
    refine h.channelIdleWait _ job created fun hProceed hTakes u _ hu => ?_
    exact hTurn.1 ⟨⟨hProceed, hTakes⟩, u, hu⟩
  | idleRelock job created =>
    obtain ⟨hPc, hIdle, -⟩ := hGuard
    have hSelf : s.WokenOnIdle .channel := ⟨by rw [idleWaiting, hPc]; rfl, hIdle⟩
    exact h.channelIdleWait _ job created fun hProceed _ => h.nobody_of_relock hSelf hProceed
  | answer rid pending => exact h.channelAnswer rid pending
  | check =>
    refine h.of_channel rfl (fun u hu => hu) (fun hWaiting => ?_) (.inl rfl)
    simp only [ProxyChannel.channelEffect] at hWaiting
    split_ifs at hWaiting <;> cases hWaiting
  | take rid pending =>
    refine h.of_channel rfl (fun u hu => hu) (fun hWaiting => ?_) (.inl rfl)
    simp only [ProxyChannel.channelEffect] at hWaiting
    split at hWaiting <;> cases hWaiting
  | start | sleep | wake | sent | drop | leave | exit =>
    exact h.of_channel rfl (fun u hu => hu) (fun hWaiting => by cases hWaiting) (.inl rfl)

theorem workerEffect (h : s.Handover) (n : Nat) (e : WorkerEvent) (hGuard : s.workerGuard n e)
    (hTurn : s.InTurn (.worker n e)) : (s.workerEffect n e).Handover := by
  cases e with
  | idleLock rid text created =>
    refine h.workerIdleWait n _ rid text created fun hProceed hCreated u _ hu => ?_
    exact hTurn.1 ⟨⟨hProceed, hCreated⟩, u, hu⟩
  | idleRelock rid text created =>
    obtain ⟨hPc, hIdle, -⟩ := hGuard
    have hSelf : s.WokenOnIdle (.worker n) := ⟨by rw [idleWaiting, hPc]; rfl, hIdle⟩
    exact h.workerIdleWait n _ rid text created fun hProceed _ => h.nobody_of_relock hSelf hProceed
  | answer =>
    by_cases hRespond : ¬ s.shm.lock.ownerDead ∧ s.shm.state = .channelRestRespond
    · refine h.of_worker n .tableUnlocking rfl rfl ?_ (fun hWaiting => by cases hWaiting)
        (.inr fun u _ => ?_)
      · simp only [ProxyChannel.workerEffect, if_pos hRespond]
        exact fun u hu => hu
      · apply h.nobody <;> rw [hRespond.2] <;> decide
    · simp only [ProxyChannel.workerEffect, if_neg hRespond]
      exact h.of_worker n .tableUnlocking rfl rfl (fun u hu => hu) (fun hWaiting => by cases hWaiting)
        (.inl rfl)
  | find job reach =>
    refine h.of_worker n _ rfl rfl (fun u hu => hu) (fun hWaiting => ?_) (.inl rfl)
    cases reach <;> cases job <;> cases hWaiting
  | start | takeTable | wake | releaseTable =>
    exact h.of_worker n _ rfl rfl (fun u hu => hu) (fun hWaiting => by cases hWaiting) (.inl rfl)

theorem killerEffect (h : s.Handover) (proxyName : ProxyName) (e : KillerEvent) :
    (s.killerEffect proxyName e).Handover := by
  cases e with
  | terminate pickIdle pickDispatcher =>
    refine ⟨fun _ _ => .inr rfl, fun hIdle => by cases hIdle⟩
  | unsent | enter | takeTable | find | stop | releaseTable | join | remove | drop | leave =>
    exact h.of_woken rfl fun t ht => ht

theorem proxyReact (h : s.Handover) (fails : Bool) (pick : Nat) :
    (s.proxyReact fails pick).Handover := by
  cases hReaction : proxyReaction fails s.shm.state with
  | none => rwa [ProxyChannel.proxyReact, hReaction]
  | some state =>
    have hNobody : ∀ t, s.idleWaiting t = true → t ∈ s.shm.idle := by
      intro t hWaiting
      by_contra hNot
      apply h.nobody _ _ t ⟨hWaiting, hNot⟩
      all_goals
        intro hState
        rw [hState] at hReaction
        cases hReaction
    by_cases hIdle : state = .channelIdle
    · subst hIdle
      rw [ProxyChannel.proxyReact, hReaction]
      refine ⟨fun _ _ => .inl rfl, fun _ t u ht hu => ?_⟩
      exact Waiters.eq_of_not_mem_signal (hNobody t ht.1) ht.2 (hNobody u hu.1) hu.2
    · have hSame : (s.proxyReact fails pick).shm.idle = s.shm.idle ∧
          ∀ t, (s.proxyReact fails pick).idleWaiting t = s.idleWaiting t := by
        rw [ProxyChannel.proxyReact, hReaction]
        cases state with
        | channelIdle => exact absurd rfl hIdle
        | _ => exact ⟨rfl, fun t => by cases t <;> rfl⟩
      apply of_nobody
      rintro t ⟨hWaiting, hNot⟩
      rw [hSame.2] at hWaiting
      rw [hSame.1] at hNot
      exact hNot (hNobody t hWaiting)

theorem proxyEffect (h : s.Handover) (e : ProxyEvent) : (s.proxyEffect e).Handover := by
  cases e with
  | react fails pick => exact h.proxyReact fails pick
  | lock | unlock | die => exact h.of_woken rfl fun t ht => ht

theorem effect (h : s.Handover) (proxyName : ProxyName) (e : ProxyChannelEvent)
    (hGuard : s.guard e) (hTurn : s.InTurn e) : (s.effect proxyName e).Handover := by
  cases e with
  | channel e => exact h.channelEffect proxyName e hGuard hTurn
  | worker n e => exact h.workerEffect n e hGuard hTurn
  | killer e => exact h.killerEffect proxyName e
  | proxy e => exact h.proxyEffect e
  | table e => cases e <;> exact h.of_woken rfl fun t ht => ht
  | spurious t =>
    have hNot := hTurn.2 t rfl
    refine h.of_woken rfl fun u hu => ⟨hu.1, fun hMem => hu.2 ?_⟩
    show u ∈ s.shm.idle.erase t
    rwa [List.erase_of_not_mem hNot]

end Handover

theorem handover_of_reachable {proxyName : ProxyName} {s : ProxyChannel}
    (h : (proxyChannelSystem proxyName).ReachableWhen InTurn s) : s.Handover := by
  refine h.invariant _ ?_ fun s e hs hGuard hTurn => hs.effect proxyName e hGuard hTurn
  intro s hStarts
  apply Handover.of_nobody
  rintro t ⟨hWaiting, -⟩
  cases t with
  | channel =>
    rw [idleWaiting, hStarts.channel] at hWaiting
    cases hWaiting
  | worker n =>
    rw [idleWaiting, hStarts.workers] at hWaiting
    cases hWaiting
  | killer => cases hWaiting
  | proxy => cases hWaiting

theorem Handover.idle_of_writesRequest {s : ProxyChannel} (h : s.Handover) {e : ProxyChannelEvent}
    (hGuard : s.guard e) (hWrites : s.WritesRequest e) : s.shm.state = .channelIdle := by
  have hWoken : ∀ {t}, s.WokenOnIdle t → s.shm.idleWaitWoken = .proceed →
      s.shm.state = .channelIdle := fun ht hProceed =>
    (h.state _ ht).resolve_right (idleWaitWoken_eq_proceed hProceed)
  cases e with
  | channel e =>
    cases e with
    | idleLock job created => exact idleWaitLocked_eq_proceed hWrites
    | idleRelock job created =>
      obtain ⟨hPc, hIdle, -⟩ := hGuard
      exact hWoken (t := .channel) ⟨by rw [idleWaiting, hPc]; rfl, hIdle⟩ hWrites
    | _ => cases hWrites
  | worker n e =>
    cases e with
    | idleLock rid text created => exact idleWaitLocked_eq_proceed hWrites
    | idleRelock rid text created =>
      obtain ⟨hPc, hIdle, -⟩ := hGuard
      exact hWoken (t := .worker n) ⟨by rw [idleWaiting, hPc]; rfl, hIdle⟩ hWrites
    | _ => cases hWrites
  | _ => cases hWrites

/-- The request in the segment: its id, its length and the state when the dispatcher writes it. -/
structure SameContent (shm shm' : ProxyChannelShm) : Prop where
  rid : shm'.rid = shm.rid
  payloadBuffLength : shm'.payloadBuffLength = shm.payloadBuffLength
  state : shm'.state = shm.state ∨ shm'.state ≠ .channelRequest ∧ shm'.state ≠ .channelRest ∧
    shm'.state ≠ .channelStopRequest

theorem SameContent.written {shm shm' : ProxyChannelShm} (hRid : shm'.rid = shm.rid)
    (hLength : shm'.payloadBuffLength = shm.payloadBuffLength) (state : ProxyChannelState)
    (hState : shm'.state = state)
    (h : state ≠ .channelRequest ∧ state ≠ .channelRest ∧ state ≠ .channelStopRequest) :
    SameContent shm shm' :=
  ⟨hRid, hLength, .inr (by rwa [hState])⟩

theorem SameContent.refl (shm : ProxyChannelShm) : SameContent shm shm := ⟨rfl, rfl, .inl rfl⟩

theorem proxyReaction_ne_request {fails : Bool} {state state' : ProxyChannelState}
    (h : proxyReaction fails state = some state') :
    state' ≠ .channelRequest ∧ state' ≠ .channelRest ∧ state' ≠ .channelStopRequest := by
  cases state <;> cases fails <;> cases h <;> decide

theorem writesRequest_or_sameContent (s : ProxyChannel) (proxyName : ProxyName)
    (e : ProxyChannelEvent) : s.WritesRequest e ∨ SameContent s.shm (s.effect proxyName e).shm := by
  cases e with
  | channel e =>
    cases e with
    | idleLock job created =>
      cases hOutcome : s.shm.idleWaitLocked with
      | proceed => exact .inl hOutcome
      | refused | sleep =>
        simp only [effect, channelEffect, channelIdleWait, hOutcome]
        exact .inr ⟨rfl, rfl, .inl rfl⟩
    | idleRelock job created =>
      cases hOutcome : s.shm.idleWaitWoken with
      | proceed => exact .inl hOutcome
      | refused | sleep =>
        simp only [effect, channelEffect, channelIdleWait, hOutcome]
        exact .inr ⟨rfl, rfl, .inl rfl⟩
    | answer rid pending =>
      simp only [effect, channelEffect, channelAnswer]
      split_ifs
      · exact .inr ⟨rfl, rfl, .inl rfl⟩
      · exact .inr (.written rfl rfl .channelDone rfl (by decide))
      · exact .inr ⟨rfl, rfl, .inl rfl⟩
    | _ => exact .inr ⟨rfl, rfl, .inl rfl⟩
  | worker n e =>
    cases e with
    | idleLock rid text created =>
      cases hOutcome : s.shm.idleWaitLocked with
      | proceed => exact .inl hOutcome
      | refused | sleep =>
        simp only [effect, workerEffect, workerIdleWait, hOutcome]
        exact .inr ⟨rfl, rfl, .inl rfl⟩
    | idleRelock rid text created =>
      cases hOutcome : s.shm.idleWaitWoken with
      | proceed => exact .inl hOutcome
      | refused | sleep =>
        simp only [effect, workerEffect, workerIdleWait, hOutcome]
        exact .inr ⟨rfl, rfl, .inl rfl⟩
    | answer =>
      simp only [effect, workerEffect]
      split_ifs
      · exact .inr (.written rfl rfl .channelDone rfl (by decide))
      · exact .inr ⟨rfl, rfl, .inl rfl⟩
    | _ => exact .inr ⟨rfl, rfl, .inl rfl⟩
  | killer e =>
    cases e with
    | terminate pickIdle pickDispatcher =>
      exact .inr (.written rfl rfl .channelTermination rfl (by decide))
    | _ => exact .inr ⟨rfl, rfl, .inl rfl⟩
  | proxy e =>
    cases e with
    | react fails pick =>
      simp only [effect, proxyEffect, proxyReact]
      cases hReaction : proxyReaction fails s.shm.state with
      | none => exact .inr ⟨rfl, rfl, .inl rfl⟩
      | some state =>
        have hWritten := proxyReaction_ne_request hReaction
        cases state <;> exact .inr (.written rfl rfl _ rfl hWritten)
    | _ => exact .inr ⟨rfl, rfl, .inl rfl⟩
  | table e => cases e <;> exact .inr ⟨rfl, rfl, .inl rfl⟩
  | spurious t => exact .inr ⟨rfl, rfl, .inl rfl⟩

/-- A request is only written into an idle channel when nobody overtakes a woken thread. -/
theorem idle_of_writesRequest_inTurn {proxyName : ProxyName} {s : ProxyChannel} {e : ProxyChannelEvent}
    (hReach : (proxyChannelSystem proxyName).ReachableWhen InTurn s) (hGuard : s.guard e)
    (hWrites : s.WritesRequest e) : s.shm.state = .channelIdle :=
  (handover_of_reachable hReach).idle_of_writesRequest hGuard hWrites

/-! ## Answers -/

/-- At most one thread sleeps on `dispatcher_wakeup`, and only while its request has no answer. -/
def Answered (s : ProxyChannel) : Prop :=
  s.shm.dispatcherWakeup = [] ∨ ∃ t, s.shm.dispatcherWakeup = [t] ∧
    (s.shm.state = .channelRequest ∨ s.shm.state = .channelRest)

namespace Answered

variable {s s' : ProxyChannel}

theorem of_same (h : s.Answered) (hWaiters : s'.shm.dispatcherWakeup = s.shm.dispatcherWakeup)
    (hState : s'.shm.state = s.shm.state) : s'.Answered := by
  rwa [Answered, hWaiters, hState]

theorem waiters_eq_nil (h : s.Answered) (hRequest : s.shm.state ≠ .channelRequest)
    (hRest : s.shm.state ≠ .channelRest) : s.shm.dispatcherWakeup = [] := by
  rcases h with hNil | ⟨t, -, hState | hState⟩
  · exact hNil
  · exact absurd hState hRequest
  · exact absurd hState hRest

theorem signal_eq_nil (h : s.Answered) (pick : Nat) : s.shm.dispatcherWakeup.signal pick = [] := by
  rcases h with hNil | ⟨t, hOne, -⟩
  · rw [hNil]
    rfl
  · rw [hOne, Waiters.signal_singleton]

theorem of_idle (h : s.Answered) (hIdle : s.shm.state = .channelIdle) : s.shm.dispatcherWakeup = [] :=
  h.waiters_eq_nil (by rw [hIdle]; decide) (by rw [hIdle]; decide)

theorem channelIdleWait (h : s.Answered) {outcome : IdleWait} (job : ChannelJob) (created : Bool)
    (hIdle : outcome = .proceed → s.shm.state = .channelIdle) :
    (s.channelIdleWait outcome job created).Answered := by
  cases outcome with
  | refused | sleep => exact h.of_same rfl rfl
  | proceed =>
    have hNil := h.of_idle (hIdle rfl)
    cases job with
    | stopRequest => exact .inl hNil
    | request rid text pending =>
      cases created with
      | false => exact h.of_same rfl rfl
      | true => exact .inr ⟨.channel, congrArg (fun l => l ++ [ChannelThread.channel]) hNil, .inl rfl⟩

theorem workerIdleWait (h : s.Answered) (n : Nat) {outcome : IdleWait} (rid : Rid) (text : String)
    (created : Bool) (hIdle : outcome = .proceed → s.shm.state = .channelIdle) :
    (s.workerIdleWait n outcome rid text created).Answered := by
  cases outcome with
  | refused | sleep => exact h.of_same rfl rfl
  | proceed =>
    have hNil := h.of_idle (hIdle rfl)
    cases created with
    | false => exact h.of_same rfl rfl
    | true => exact .inr ⟨.worker n, congrArg (fun l => l ++ [ChannelThread.worker n]) hNil, .inr rfl⟩

theorem channelEffect (h : s.Answered) (hHandover : s.Handover) (proxyName : ProxyName)
    (e : ChannelEvent) (hGuard : s.channelGuard e) : (s.channelEffect proxyName e).Answered := by
  cases e with
  | idleLock job created =>
    exact h.channelIdleWait job created fun hProceed =>
      hHandover.idle_of_writesRequest (e := .channel (.idleLock job created)) hGuard hProceed
  | idleRelock job created =>
    exact h.channelIdleWait job created fun hProceed =>
      hHandover.idle_of_writesRequest (e := .channel (.idleRelock job created)) hGuard hProceed
  | answer rid pending =>
    simp only [ProxyChannel.channelEffect, channelAnswer]
    split_ifs with _ hAnswered
    · exact h.of_same rfl rfl
    · refine .inl (h.waiters_eq_nil ?_ ?_) <;>
        rcases hAnswered with hState | hState <;> rw [hState] <;> decide
    · exact h.of_same rfl rfl
  | start | check | take | sleep | wake | sent | drop | leave | exit => exact h.of_same rfl rfl

theorem workerEffect (h : s.Answered) (hHandover : s.Handover) (n : Nat) (e : WorkerEvent)
    (hGuard : s.workerGuard n e) : (s.workerEffect n e).Answered := by
  cases e with
  | idleLock rid text created =>
    exact h.workerIdleWait n rid text created fun hProceed =>
      hHandover.idle_of_writesRequest (e := .worker n (.idleLock rid text created)) hGuard hProceed
  | idleRelock rid text created =>
    exact h.workerIdleWait n rid text created fun hProceed =>
      hHandover.idle_of_writesRequest (e := .worker n (.idleRelock rid text created)) hGuard hProceed
  | answer =>
    simp only [ProxyChannel.workerEffect]
    split_ifs with hRespond
    · exact .inl (h.waiters_eq_nil (by rw [hRespond.2]; decide) (by rw [hRespond.2]; decide))
    · exact h.of_same rfl rfl
  | start | takeTable | find | wake | releaseTable => exact h.of_same rfl rfl

theorem killerEffect (h : s.Answered) (proxyName : ProxyName) (e : KillerEvent) :
    (s.killerEffect proxyName e).Answered := by
  cases e with
  | terminate pickIdle pickDispatcher => exact .inl (h.signal_eq_nil pickDispatcher)
  | unsent | enter | takeTable | find | stop | releaseTable | join | remove | drop | leave =>
    exact h.of_same rfl rfl

theorem proxyReact (h : s.Answered) (fails : Bool) (pick : Nat) :
    (s.proxyReact fails pick).Answered := by
  cases hReaction : proxyReaction fails s.shm.state with
  | none => rwa [ProxyChannel.proxyReact, hReaction]
  | some state =>
    by_cases hIdle : state = .channelIdle
    · subst hIdle
      rw [ProxyChannel.proxyReact, hReaction]
      refine .inl (h.waiters_eq_nil ?_ ?_) <;>
      · intro hState
        rw [hState] at hReaction
        cases fails <;> cases hReaction
    · have hSignal : (s.proxyReact fails pick).shm.dispatcherWakeup =
          s.shm.dispatcherWakeup.signal pick := by
        rw [ProxyChannel.proxyReact, hReaction]
        cases state with
        | channelIdle => exact absurd rfl hIdle
        | _ => rfl
      exact .inl (hSignal.trans (h.signal_eq_nil pick))

theorem effect (h : s.Answered) (hHandover : s.Handover) (proxyName : ProxyName)
    (e : ProxyChannelEvent) (hGuard : s.guard e) : (s.effect proxyName e).Answered := by
  cases e with
  | channel e => exact h.channelEffect hHandover proxyName e hGuard
  | worker n e => exact h.workerEffect hHandover n e hGuard
  | killer e => exact h.killerEffect proxyName e
  | proxy e =>
    cases e with
    | react fails pick => exact h.proxyReact fails pick
    | lock | unlock | die => exact h.of_same rfl rfl
  | table e => cases e <;> exact h.of_same rfl rfl
  | spurious t =>
    have hErase : (s.effect proxyName (.spurious t)).shm.dispatcherWakeup =
        s.shm.dispatcherWakeup.erase t := rfl
    rw [Answered, hErase]
    rcases h with hNil | ⟨u, hOne, hState⟩
    · rw [hNil]
      exact .inl rfl
    · rw [hOne]
      by_cases hEq : u = t
      · exact .inl (by simp [hEq])
      · exact .inr ⟨u, by simp [hEq], hState⟩

end Answered

theorem answered_of_reachable {proxyName : ProxyName} {s : ProxyChannel}
    (h : (proxyChannelSystem proxyName).ReachableWhen InTurn s) : s.Answered := by
  have hBoth : s.Handover ∧ s.Answered := by
    refine h.invariant (fun s => s.Handover ∧ s.Answered) ?_ ?_
    · exact fun s hStarts =>
        ⟨handover_of_reachable (.init hStarts), .inl (Starts.dispatcherWakeup hStarts)⟩
    · rintro s e ⟨hHandover, hAnswered⟩ hGuard hTurn
      exact ⟨hHandover.effect proxyName e hGuard hTurn, hAnswered.effect hHandover proxyName e hGuard⟩
  exact hBoth.2

/-! ## Overtaking -/

/-- After a thread took the idle channel, its request is in the segment and the lock is free. -/
structure TookIdle (s s' : ProxyChannel) : Prop where
  lock : s'.shm.lock = .free
  idle : s'.shm.idle = s.shm.idle
  state : s'.shm.state ≠ .channelIdle ∧ s'.shm.state ≠ .channelTermination
  channel : ∀ job, s.channel = .waiting job → s'.channel = .waiting job
  workers : ∀ n rid text, s.workers n = .waiting rid text → s'.workers n = .waiting rid text

theorem tookIdle_of_takesIdle {s : ProxyChannel} {e : ProxyChannelEvent} (proxyName : ProxyName)
    (hGuard : s.guard e) (h : s.TakesIdle e) : TookIdle s (s.effect proxyName e) := by
  cases e with
  | channel e =>
    cases e with
    | idleLock job created =>
      obtain ⟨hPc, -⟩ := hGuard
      obtain ⟨hProceed, hPosts⟩ := h
      have hChannel : ∀ job', s.channel ≠ .waiting job' := by simp [hPc]
      simp only [effect, channelEffect, hProceed, ProxyChannel.channelIdleWait]
      cases job with
      | stopRequest =>
        refine ⟨rfl, rfl, ⟨nofun, nofun⟩, fun job' hJob => absurd hJob (hChannel job'), fun _ _ _ => id⟩
      | request rid text pending =>
        obtain rfl : created = true := by simpa using hPosts
        refine ⟨rfl, rfl, ⟨nofun, nofun⟩, fun job' hJob => absurd hJob (hChannel job'), fun _ _ _ => id⟩
    | _ => cases h
  | worker n e =>
    cases e with
    | idleLock rid text created =>
      obtain ⟨hPc, -⟩ := hGuard
      obtain ⟨hProceed, rfl⟩ := h
      simp only [effect, workerEffect, hProceed, ProxyChannel.workerIdleWait]
      refine ⟨rfl, rfl, ⟨nofun, nofun⟩, fun _ => id, fun m rid' text' hWaiting => ?_⟩
      have hNe : m ≠ n := by
        rintro rfl
        simp [hPc] at hWaiting
      exact (Function.update_of_ne hNe _ _).trans hWaiting
    | _ => cases h
  | _ => cases h

theorem idleWaitWoken_of_free {shm : ProxyChannelShm} (hLock : shm.lock = .free)
    (hState : shm.state ≠ .channelTermination) : shm.idleWaitWoken = .proceed := by
  rw [ProxyChannelShm.idleWaitWoken, hLock, if_neg hState]
  rfl

/-- The woken thread may go next, and then writes over the request of the one that overtook it. -/
theorem overwrites_of_overtakes {s : ProxyChannel} {e : ProxyChannelEvent} (proxyName : ProxyName)
    (hGuard : s.guard e) (h : s.Overtakes e) :
    ∃ e', (s.effect proxyName e).guard e' ∧ (s.effect proxyName e).WritesRequest e' ∧
      (s.effect proxyName e).shm.state ≠ .channelIdle := by
  obtain ⟨hTakes, t, hWaiting, hNot⟩ := h
  obtain ⟨hLock, hIdle, ⟨hState, hTermination⟩, hChannel, hWorkers⟩ :=
    tookIdle_of_takesIdle proxyName hGuard hTakes
  have hProceed := idleWaitWoken_of_free hLock hTermination
  have hOwner : (s.effect proxyName e).shm.lock.owner = none := by rw [hLock]; rfl
  rw [← hIdle] at hNot
  cases t with
  | channel =>
    cases hPc : s.channel with
    | waiting job =>
      exact ⟨.channel (.idleRelock job true), ⟨hChannel job hPc, hNot, hOwner⟩, hProceed, hState⟩
    | _ => simp [idleWaiting, hPc, ChannelPc.isWaiting] at hWaiting
  | worker n =>
    cases hPc : s.workers n with
    | waiting rid text =>
      exact ⟨.worker n (.idleRelock rid text true), ⟨hWorkers n rid text hPc, hNot, hOwner⟩,
        hProceed, hState⟩
    | _ => simp [idleWaiting, hPc, WorkerPc.isWaiting] at hWaiting
  | killer => cases hWaiting
  | proxy => cases hWaiting

/-- While the channel thread sleeps on `idle` behind a first REST call, a second one overtakes it. -/
def overtakingRun : List ProxyChannelEvent :=
  [.worker 0 (.start (.rest "a" "x")), .worker 0 (.takeTable (.rest "a" "x")),
    .worker 0 (.find (.rest "a" "x") true), .worker 0 (.idleLock "a" "x" true),
    .channel .start, .channel .check, .channel (.take "r" []),
    .channel (.idleLock (.request "r" "y" []) true),
    .proxy .lock, .proxy (.react false 0), .proxy .unlock,
    .worker 0 .answer, .worker 0 .releaseTable,
    .proxy .lock, .proxy (.react false 0), .proxy .unlock,
    .worker 1 (.start (.rest "b" "z")), .worker 1 (.takeTable (.rest "b" "z")),
    .worker 1 (.find (.rest "b" "z") true), .worker 1 (.idleLock "b" "z" true)]

/-- A proxy with one waiting request. -/
def sampleChannel : ProxyChannel :=
  startedProxyChannel (clientServiceTableSet .empty "r" "y") (clientProxynameTableSet .empty "p" "r")

theorem request_overwritten :
    ¬ ∀ s, (proxyChannelSystem "p").ReachableWhen (fun _ e => e.isSpurious = false) s →
      ∀ e, s.guard e → s.WritesRequest e → s.shm.state = .channelIdle := by
  intro h
  have hReach : (proxyChannelSystem "p").ReachableWhen (fun _ e => e.isSpurious = false)
      ((proxyChannelSystem "p").run sampleChannel overtakingRun) :=
    .run (.init (starts_startedProxyChannel _ _)) overtakingRun (by decide)
  have hState := h _ hReach (.channel (.idleRelock (.request "r" "y" []) true)) (by decide)
    (by unfold WritesRequest; decide)
  exact absurd hState (by decide)

/-- Neither a wait for the idle channel that begins nor a spurious wakeup. -/
def isCalm : ProxyChannelEvent → Bool
  | .channel (.idleLock _ _) | .worker _ (.idleLock _ _ _) | .spurious _ => false
  | _ => true

theorem inTurn_of_isCalm {s : ProxyChannel} {e : ProxyChannelEvent} (h : isCalm e = true) : s.InTurn e := by
  refine ⟨fun hOvertakes => ?_, fun t hSpurious => ?_⟩
  · have hTakes := hOvertakes.1
    unfold TakesIdle at hTakes
    split at hTakes
    · cases h
    · cases h
    · exact hTakes
  · subst hSpurious
    cases h

/-- A REST call has the channel when the channel thread comes for its request, and the channel is idle
again. -/
def waitingRun : List ProxyChannelEvent := overtakingRun.take 16

theorem inTurn_of_reachable_waitingRun :
    (proxyChannelSystem "p").ReachableWhen InTurn ((proxyChannelSystem "p").run sampleChannel waitingRun) := by
  let M := proxyChannelSystem "p"
  have hCalm {s : ProxyChannel} (hReach : M.ReachableWhen InTurn s) (events : List ProxyChannelEvent)
      (hAdmits : M.Admits (fun _ e => isCalm e = true) s events) : M.ReachableWhen InTurn (M.run s events) :=
    hReach.run events (hAdmits.mono fun _ _ => inTurn_of_isCalm)
  have hStart : M.ReachableWhen InTurn sampleChannel := .init (starts_startedProxyChannel _ _)
  have hCalled := hCalm hStart (waitingRun.take 3) (by decide)
  have hOthers : ∀ n ≠ 0, (M.run sampleChannel (waitingRun.take 3)).workers n = .ready := by
    intro n hn
    change Function.update (Function.update (Function.update _ 0 _) 0 _) 0 _ n = _
    simp only [Function.update_of_ne hn]
    rfl
  -- nobody waits when the REST call takes the channel
  have hPosted := hCalled.step (e := .worker 0 (.idleLock "a" "x" true)) (by decide) (by
    refine ⟨fun ⟨_, t, hWaiting, _⟩ => ?_, nofun⟩
    cases t with
    | worker n =>
      rw [idleWaiting] at hWaiting
      by_cases hn : n = 0
      · subst hn
        exact absurd hWaiting (by decide)
      · rw [hOthers n hn] at hWaiting
        cases hWaiting
    | channel | killer | proxy => cases hWaiting)
  have hTaken := hCalm hPosted ((waitingRun.drop 4).take 3) (by decide)
  have hWaits := hTaken.step (e := .channel (.idleLock (.request "r" "y" []) true)) (by decide)
    (by
      refine ⟨fun hOvertakes => ?_, nofun⟩
      obtain ⟨⟨hProceed, -⟩, -⟩ := hOvertakes
      exact absurd hProceed (by decide))
  exact hCalm hWaits (waitingRun.drop 8) (by decide)

theorem idle_of_writesRequest_inTurn_waitingRun :
    ((proxyChannelSystem "p").run sampleChannel waitingRun).shm.state = .channelIdle := by
  refine idle_of_writesRequest_inTurn (e := .channel (.idleRelock (.request "r" "y" []) true))
    inTurn_of_reachable_waitingRun (by decide) ?_
  unfold WritesRequest
  decide

end ProxyChannel

end Gonggo
