import Gonggo.DispatchSteps

/-! # Invariants of the dispatch

The sleep of the channel thread, the life of its incarnations, and the requests in the tables.
-/

namespace Gonggo

/-- The activator has the thread that it made. -/
def ActivationPc.holdsThread : ActivationPc → Bool
  | .responding | .arraySetting | .waking | .terminating | .stopping | .joining | .registering => true
  | _ => false

/-- The activator is between its call of `proxy_thread_kill` and the registration. -/
def ActivationPc.isNew : ActivationPc → Bool
  | .creating => true
  | pc => pc.holdsThread

/-- The call found the registered channel and has not removed it yet. -/
def KillerPc.hasFound : KillerPc → Bool
  | .terminating | .stopping | .tableUnlocking true | .joining | .removing => true
  | _ => false

/-- The call found no channel, or has removed it. -/
def KillerPc.hasCleared : KillerPc → Bool
  | .tableUnlocking false | .killed => true
  | _ => false

namespace ChannelDispatch

variable {print : Printer} {proxyName : ProxyName} {s s' : ChannelDispatch}

/-! ## The sleep of the channel thread -/

/-- Only the channel thread and the proxy are at the channel. -/
structure Seated (c : ProxyChannel) : Prop where
  locked : c.Locked
  parked : c.Parked
  workers : ∀ n, c.workers n = .ready
  killer : c.killer = .ready

namespace Seated

variable {c c' : ProxyChannel}

theorem signal_dispatcherWakeup (h : Seated c) (pick : Nat) :
    ChannelThread.channel ∉ c.shm.dispatcherWakeup.signal pick := by
  apply ProxyChannel.Terminated.signal_of_killer h.parked.dispatcherNodup
  intro t ht
  have hWaiting := h.parked.dispatcher t ht
  cases t with
  | channel => rfl
  | worker n =>
    rw [ProxyChannel.answerWaiting, h.workers] at hWaiting
    cases hWaiting
  | killer => cases hWaiting
  | proxy => cases hWaiting

/-- Whoever finds the lock of the context free does not find the thread in a pass, and it does not
sleep on after the signal. -/
theorem awake_of_signals (h : Seated c) (hSignals : Signals c c') :
    c.channel.holdsCtx = false ∧ ChannelThread.channel ∉ c'.wakeup := by
  obtain ⟨hFree, pick, hWakeup⟩ := hSignals
  constructor
  · rw [Bool.eq_false_iff]
    intro hHolds
    rw [h.locked.ctx.mp hHolds] at hFree
    cases hFree
  · rw [hWakeup, h.parked.signal_wakeup]
    exact List.not_mem_nil

theorem of_frame (h : Seated c) (hFrame : CurrentFrame c c') : Seated c' where
  locked := by
    refine h.locked.of_same hFrame.tableLock hFrame.ctxLock (fun n => ?_) ?_ ?_
    · rw [hFrame.workers]
    · rw [hFrame.killer]
    · rw [hFrame.channel]
  parked := by
    refine h.parked.of_sublist hFrame.channel hFrame.workers ?_ ?_ ?_
    · rw [hFrame.shm]
    · rw [hFrame.shm]
    · rcases hFrame.wakeup with hSame | ⟨-, pick, hSignal⟩
      · rw [hSame]
      · rw [hSignal]
        exact List.eraseIdx_sublist ..
  workers := by
    rw [hFrame.workers]
    exact h.workers
  killer := by
    rw [hFrame.killer]
    exact h.killer

theorem channelEffect (h : Seated c) (e : ChannelEvent) (hGuard : c.channelGuard e) :
    Seated (c.channelEffect proxyName e) := by
  have hFrame := channelEffect_frame proxyName c e
  refine ⟨h.locked.channelEffect proxyName e hGuard, h.parked.channelEffect proxyName e hGuard, ?_, ?_⟩
  · rw [hFrame.workers]
    exact h.workers
  · rw [hFrame.killer]
    exact h.killer

theorem proxyEffect (h : Seated c) (e : ProxyEvent) : Seated (c.proxyEffect e) := by
  have hFrame := (proxyEffect_frame c e).1
  refine ⟨h.locked.proxyEffect e, h.parked.proxyEffect e, ?_, ?_⟩
  · rw [hFrame.workers]
    exact h.workers
  · rw [hFrame.killer]
    exact h.killer

theorem stopSegment (h : Seated c) (pickIdle pickDispatcher : Nat) :
    Seated (c.stopSegment pickIdle pickDispatcher) where
  locked := h.locked.of_same rfl rfl (fun _ => rfl) rfl rfl
  parked := h.parked.of_sublist rfl rfl (List.eraseIdx_sublist ..) (List.eraseIdx_sublist ..) (.refl _)
  workers := h.workers
  killer := h.killer

theorem stopContext (h : Seated c) (pick : Nat) : Seated (c.stopContext pick) where
  locked := h.locked.of_same rfl rfl (fun _ => rfl) rfl rfl
  parked := h.parked.of_sublist rfl rfl (.refl _) (.refl _) (List.eraseIdx_sublist ..)
  workers := h.workers
  killer := h.killer

theorem restarted (h : Seated c) : Seated c.restarted where
  locked :=
    { worker := h.locked.worker
      killer := h.locked.killer
      tableOwner := h.locked.tableOwner
      ctx := by simp [ProxyChannel.restarted, ChannelPc.holdsCtx]
      ctxOwner := by simp [ProxyChannel.restarted] }
  parked :=
    { idle := by simp [ProxyChannel.restarted]
      idleNodup := List.nodup_nil
      dispatcher := by simp [ProxyChannel.restarted]
      dispatcherNodup := List.nodup_nil
      wakeup := .inl rfl }
  workers := h.workers
  killer := h.killer

theorem step (h : Seated c) (hStep : CurrentStep proxyName c c') : Seated c' := by
  cases hStep with
  | frame hFrame => exact h.of_frame hFrame
  | channel e hGuard => exact h.channelEffect e hGuard
  | proxy e => exact h.proxyEffect e
  | stopSegment pickIdle pickDispatcher => exact h.stopSegment ..
  | stopContext pick => exact h.stopContext pick
  | restarted => exact h.restarted

end Seated

/-- A request in the segment is there until the proxy has answered it or the channel is terminated,
and only then the channel thread is woken. -/
structure RequestAnswered (c : ProxyChannel) : Prop where
  posted : c.channel.isAnswering = true → ChannelThread.channel ∈ c.shm.dispatcherWakeup →
    c.shm.state = .channelRequest
  woken : c.channel.isAnswering = true → ChannelThread.channel ∉ c.shm.dispatcherWakeup →
    c.shm.state = .channelAcknowledged ∨ c.shm.state = .channelFails ∨ c.shm.state = .channelTermination

namespace RequestAnswered

variable {c c' : ProxyChannel}

theorem of_not_answering (h : c.channel.isAnswering = false) : RequestAnswered c :=
  ⟨fun hPc => absurd (h.symm.trans hPc) (by decide), fun hPc => absurd (h.symm.trans hPc) (by decide)⟩

theorem of_same (h : RequestAnswered c) (hChannel : c'.channel = c.channel)
    (hState : c'.shm.state = c.shm.state)
    (hWakeup : c'.shm.dispatcherWakeup = c.shm.dispatcherWakeup) : RequestAnswered c' where
  posted := by
    rw [hChannel, hState, hWakeup]
    exact h.posted
  woken := by
    rw [hChannel, hState, hWakeup]
    exact h.woken

theorem channelIdleWait (outcome : IdleWait) (job : ChannelJob) (created : Bool) :
    RequestAnswered (c.channelIdleWait outcome job created) := by
  cases outcome with
  | sleep => exact of_not_answering rfl
  | refused => cases job <;> exact of_not_answering rfl
  | proceed =>
    cases job with
    | stopRequest => exact of_not_answering rfl
    | request rid text pending =>
      cases created with
      | false => exact of_not_answering rfl
      | true =>
        refine ⟨fun _ _ => rfl, fun _ hNot => absurd ?_ hNot⟩
        exact List.mem_append_right _ (List.mem_singleton_self _)

theorem channelEffect (c : ProxyChannel) (e : ChannelEvent) :
    RequestAnswered (c.channelEffect proxyName e) := by
  cases e with
  | idleLock job created => exact channelIdleWait _ job created
  | idleRelock job created => exact channelIdleWait _ job created
  | answer rid pending =>
    apply of_not_answering
    simp only [ProxyChannel.channelEffect, ProxyChannel.channelAnswer]
    split_ifs <;> rfl
  | check =>
    apply of_not_answering
    simp only [ProxyChannel.channelEffect]
    split_ifs <;> rfl
  | take rid pending =>
    apply of_not_answering
    simp only [ProxyChannel.channelEffect]
    split <;> rfl
  | start | sleep | wake | sent | drop | leave | exit => exact of_not_answering rfl

theorem proxyEffect (h : RequestAnswered c) (hSeated : Seated c) (e : ProxyEvent)
    (hGuard : c.proxyGuard e) : RequestAnswered (c.proxyEffect e) := by
  cases e with
  | lock | unlock | die => exact h.of_same rfl rfl rfl
  | react fails pick =>
    have hReacts := hGuard.2
    by_cases hPc : c.channel.isAnswering = true
    · by_cases hMem : ChannelThread.channel ∈ c.shm.dispatcherWakeup
      · have hState := h.posted hPc hMem
        have hGone := hSeated.signal_dispatcherWakeup pick
        simp only [ProxyChannel.proxyEffect, ProxyChannel.proxyReact, hState, ProxyChannel.proxyReaction]
        cases fails
        · exact ⟨fun _ hStill => absurd hStill hGone, fun _ _ => .inl rfl⟩
        · exact ⟨fun _ hStill => absurd hStill hGone, fun _ _ => .inr (.inl rfl)⟩
      · exfalso
        rcases h.woken hPc hMem with hState | hState | hState <;> rw [hState] at hReacts <;>
          cases hReacts
    · apply of_not_answering
      rw [(proxyEffect_frame c (.react fails pick)).2.2.1]
      exact Bool.eq_false_iff.mpr hPc

theorem step (h : RequestAnswered c) (hSeated : Seated c) (hStep : CurrentStep proxyName c c') :
    RequestAnswered c' := by
  cases hStep with
  | frame hFrame => exact h.of_same hFrame.channel (by rw [hFrame.shm]) (by rw [hFrame.shm])
  | channel e => exact channelEffect c e
  | proxy e hGuard => exact h.proxyEffect hSeated e hGuard
  | stopSegment pickIdle pickDispatcher =>
    exact ⟨fun _ hStill => absurd hStill (hSeated.signal_dispatcherWakeup pickDispatcher),
      fun _ _ => .inr (.inr rfl)⟩
  | stopContext pick => exact h.of_same rfl rfl rfl
  | restarted => exact of_not_answering rfl

end RequestAnswered

/-! ## The life of the incarnations -/

/-- There is one channel thread at a time: while it runs it is registered or with the activator that
made it. -/
structure Incarnated (s : ChannelDispatch) : Prop where
  fresh : s.activator.isNew = true → s.current.registered = false
  owned : s.current.channel ≠ .finished → s.current.registered = true ∨ s.activator.holdsThread = true
  found : ∀ turn, s.kill = some turn → turn.pc.hasFound = true → s.current.registered = true
  cleared : ∀ turn, s.kill = some turn → turn.byTerminator = false → turn.pc.hasCleared = true →
    s.current.registered = false
  joined : ∀ turn, s.kill = some turn → turn.pc = .removing → s.current.channel = .finished
  drained : s.history.drained = true → s.current.channel ≠ .finished → s.current.registered = true
  activator : ∀ turn, s.kill = some turn → turn.byTerminator = false → s.activator = .killing
  terminator : ∀ turn, s.kill = some turn → turn.byTerminator = true → s.terminator = .killing

namespace Incarnated

theorem of_same (h : s.Incarnated) (hRegistered : s'.current.registered = s.current.registered)
    (hChannel : s'.current.channel ≠ .finished → s.current.channel ≠ .finished)
    (hFinished : s.current.channel = .finished → s'.current.channel = .finished)
    (hActivator : s'.activator = s.activator) (hKill : s'.kill = s.kill)
    (hDrained : s'.history.drained = s.history.drained)
    (hTerminator : s.terminator = .killing → s'.terminator = .killing) : s'.Incarnated where
  fresh := by
    rw [hActivator, hRegistered]
    exact h.fresh
  owned hPc := by
    rw [hActivator, hRegistered]
    exact h.owned (hChannel hPc)
  found := by
    rw [hKill, hRegistered]
    exact h.found
  cleared := by
    rw [hKill, hRegistered]
    exact h.cleared
  joined turn hTurn hPc := hFinished (h.joined turn (hKill ▸ hTurn) hPc)
  drained hDone hPc := by
    rw [hRegistered]
    exact h.drained (hDrained ▸ hDone) (hChannel hPc)
  activator := by
    rw [hKill, hActivator]
    exact h.activator
  terminator turn hTurn hBy := hTerminator (h.terminator turn (hKill ▸ hTurn) hBy)

theorem of_quiet (h : s.Incarnated) (hRegistered : s'.current.registered = s.current.registered)
    (hChannel : s'.current.channel = s.current.channel) (hActivator : s'.activator = s.activator)
    (hKill : s'.kill = s.kill) (hDrained : s'.history.drained = s.history.drained)
    (hTerminator : s.terminator = .killing → s'.terminator = .killing) : s'.Incarnated :=
  h.of_same hRegistered (by rw [hChannel]; exact id) (by rw [hChannel]; exact id) hActivator hKill
    hDrained hTerminator

theorem channelEffect (h : s.Incarnated) (print : Printer) (e : ChannelEvent)
    (hGuard : s.current.channelGuard e) : (s.effect print proxyName (.channel e)).Incarnated := by
  have hRuns : s.current.channel ≠ .finished := by
    intro hPc
    cases e <;> simp [ProxyChannel.channelGuard, hPc] at hGuard
  exact h.of_same (channelEffect_frame proxyName s.current e).registered (fun _ => hRuns)
    (fun hPc => absurd hPc hRuns) rfl rfl rfl id

theorem of_activator (h : s.Incarnated) (hNot : s.activator ≠ .killing) (hKill : s'.kill = s.kill)
    (hTerminator : s'.terminator = s.terminator)
    (hRegistered : s'.current.registered = s.current.registered)
    (hChannel : s'.current.channel = s.current.channel)
    (hDrained : s'.history.drained = s.history.drained)
    (hFresh : s'.activator.isNew = true → s.activator.isNew = true)
    (hOwned : s.current.channel ≠ .finished → s.activator.holdsThread = true →
      s'.activator.holdsThread = true) : s'.Incarnated where
  fresh hNew := by
    rw [hRegistered]
    exact h.fresh (hFresh hNew)
  owned hPc := by
    rw [hChannel] at hPc
    rw [hRegistered]
    exact (h.owned hPc).imp_right (hOwned hPc)
  found := by
    rw [hKill, hRegistered]
    exact h.found
  cleared := by
    rw [hKill, hRegistered]
    exact h.cleared
  joined := by
    rw [hKill, hChannel]
    exact h.joined
  drained := by
    rw [hDrained, hChannel, hRegistered]
    exact h.drained
  activator turn hTurn hBy := absurd (h.activator turn (hKill ▸ hTurn) hBy) hNot
  terminator := by
    rw [hKill, hTerminator]
    exact h.terminator

theorem activatorEffect (h : s.Incarnated) (hEnabled : s.activatorEnabled = true)
    (outcome : ActivationOutcome) (pickIdle pickDispatcher pick : Nat) :
    (s.activatorEffect outcome pickIdle pickDispatcher pick).Incarnated := by
  have hQuiet : ∀ {s' : ChannelDispatch}, s.activator ≠ .killing → s'.kill = s.kill →
      s'.terminator = s.terminator → s'.current.registered = s.current.registered → s'.current.channel = s.current.channel →
      s'.history.drained = s.history.drained →
      (s'.activator.isNew = true → s.activator.isNew = true) →
      (s.current.channel ≠ .finished → s.activator.holdsThread = true →
        s'.activator.holdsThread = true) → s'.Incarnated := h.of_activator
  cases hPc : s.activator with
  | idle | killing => simp [activatorEnabled, hPc] at hEnabled
  | waiting =>
    have hNone : s.kill = none := by simpa [activatorEnabled, hPc] using hEnabled
    simp only [ChannelDispatch.activatorEffect, hPc]
    refine ⟨(fun hNew => by cases hNew), fun hRuns => ?_, fun turn hTurn hFound => ?_,
      fun turn hTurn _ hCleared => ?_, fun turn hTurn hJoined => ?_, h.drained, fun _ _ _ => rfl,
      fun turn hTurn hBy => ?_⟩
    · have hOwned := h.owned hRuns
      rw [hPc] at hOwned
      exact hOwned.imp_right fun hHolds => by cases hHolds
    · cases hTurn
      cases hFound
    · cases hTurn
      cases hCleared
    · cases hTurn
      cases hJoined
    · cases hTurn
      cases hBy
  | creating =>
    have hClear := h.fresh (by rw [hPc]; rfl)
    simp only [ChannelDispatch.activatorEffect, hPc]
    split
    · refine ⟨fun _ => hClear, fun _ => .inr rfl, h.found, h.cleared, fun turn hTurn hJoined => ?_,
        (fun hDrained => by cases hDrained), fun turn hTurn hBy => ?_, h.terminator⟩
      · have hFound := h.found turn hTurn (by rw [hJoined]; rfl)
        rw [hClear] at hFound
        cases hFound
      · exact absurd (hPc.symm.trans (h.activator turn hTurn hBy)) (by decide)
    · exact hQuiet (by rw [hPc]; decide) rfl rfl rfl rfl rfl (fun hNew => by cases hNew)
        (by rw [hPc]; exact fun _ hHolds => by cases hHolds)
  | responding =>
    simp only [ChannelDispatch.activatorEffect, hPc]
    refine hQuiet (by rw [hPc]; decide) rfl rfl rfl rfl rfl (by rw [hPc]; exact fun _ => rfl) ?_
    cases outcome <;> exact fun _ _ => rfl
  | arraySetting | waking | terminating | stopping =>
    simp only [ChannelDispatch.activatorEffect, hPc]
    exact hQuiet (by rw [hPc]; decide) rfl rfl rfl rfl rfl (by rw [hPc]; exact fun _ => rfl) fun _ _ => rfl
  | joining =>
    have hFinished : s.current.channel = .finished := by simpa [activatorEnabled, hPc] using hEnabled
    simp only [ChannelDispatch.activatorEffect, hPc]
    exact hQuiet (by rw [hPc]; decide) rfl rfl rfl rfl rfl (fun hNew => by cases hNew)
      fun hRuns => absurd hFinished hRuns
  | registering =>
    have hClear := h.fresh (by rw [hPc]; rfl)
    simp only [ChannelDispatch.activatorEffect, hPc]
    refine ⟨(fun hNew => by cases hNew), fun _ => .inl rfl, fun _ _ _ => rfl,
      fun turn hTurn hBy => ?_, h.joined, fun _ _ => rfl, fun turn hTurn hBy => ?_, h.terminator⟩
    · exact absurd (hPc.symm.trans (h.activator turn hTurn hBy)) (by decide)
    · exact absurd (hPc.symm.trans (h.activator turn hTurn hBy)) (by decide)
  | draining =>
    simp only [ChannelDispatch.activatorEffect, hPc]
    refine ⟨(fun hNew => by cases hNew), fun hRuns => ?_, h.found, h.cleared, h.joined,
      fun _ hRuns => ?_, fun turn hTurn hBy => ?_, h.terminator⟩
    · have hOwned := h.owned hRuns
      rw [hPc] at hOwned
      exact hOwned.imp_right fun hHolds => by cases hHolds
    · have hOwned := h.owned hRuns
      rw [hPc] at hOwned
      exact hOwned.resolve_right fun hHolds => by cases hHolds
    · exact absurd (hPc.symm.trans (h.activator turn hTurn hBy)) (by decide)

theorem of_kill (h : s.Incarnated) {turn : KillTurn} (hTurn : s.kill = some turn) {pc : KillerPc}
    (hKill : s'.kill = some { turn with pc := pc }) (hChannel : s'.current.channel = s.current.channel)
    (hRegistered : s'.current.registered = s.current.registered) (hActivator : s'.activator = s.activator)
    (hTerminator : s'.terminator = s.terminator)
    (hDrained : s'.history.drained = s.history.drained)
    (hFound : pc.hasFound = true → s.current.registered = true)
    (hCleared : turn.byTerminator = false → pc.hasCleared = true → s.current.registered = false)
    (hJoined : pc = .removing → s.current.channel = .finished) : s'.Incarnated where
  fresh := by
    rw [hActivator, hRegistered]
    exact h.fresh
  owned := by
    rw [hChannel, hActivator, hRegistered]
    exact h.owned
  found turn' hTurn' hPc := by
    rw [hKill, Option.some.injEq] at hTurn'
    subst hTurn'
    rw [hRegistered]
    exact hFound hPc
  cleared turn' hTurn' hBy hPc := by
    rw [hKill, Option.some.injEq] at hTurn'
    subst hTurn'
    rw [hRegistered]
    exact hCleared hBy hPc
  joined turn' hTurn' hPc := by
    rw [hKill, Option.some.injEq] at hTurn'
    subst hTurn'
    rw [hChannel]
    exact hJoined hPc
  drained := by
    rw [hDrained, hChannel, hRegistered]
    exact h.drained
  activator turn' hTurn' hBy := by
    rw [hKill, Option.some.injEq] at hTurn'
    subst hTurn'
    rw [hActivator]
    exact h.activator turn hTurn hBy
  terminator turn' hTurn' hBy := by
    rw [hKill, Option.some.injEq] at hTurn'
    subst hTurn'
    rw [hTerminator]
    exact h.terminator turn hTurn hBy

theorem killEffect (h : s.Incarnated) {turn : KillTurn} (hTurn : s.kill = some turn)
    (hEnabled : s.killerEnabled = true) (pickIdle pickDispatcher pick : Nat) :
    (s.killEffect turn pickIdle pickDispatcher pick).Incarnated := by
  have hStill : turn.pc.hasFound = true → s.current.registered = true := h.found turn hTurn
  cases hPc : turn.pc with
  | ready =>
    simp only [ChannelDispatch.killEffect, hPc]
    exact h
  | tableLocking =>
    simp only [ChannelDispatch.killEffect, hPc]
    exact h.of_kill hTurn rfl rfl rfl rfl rfl rfl (fun hPc => by cases hPc) (fun _ hPc => by cases hPc)
      fun hPc => by cases hPc
  | finding =>
    simp only [ChannelDispatch.killEffect, hPc]
    cases hRegistered : s.current.registered with
    | true =>
      exact h.of_kill hTurn rfl rfl rfl rfl rfl rfl (fun _ => hRegistered) (fun _ hPc => by cases hPc)
        fun hPc => by cases hPc
    | false =>
      exact h.of_kill hTurn rfl rfl rfl rfl rfl rfl (fun hPc => by cases hPc) (fun _ _ => hRegistered)
        fun hPc => by cases hPc
  | terminating | stopping =>
    simp only [ChannelDispatch.killEffect, hPc]
    exact h.of_kill hTurn rfl rfl rfl rfl rfl rfl (fun _ => hStill (by rw [hPc]; rfl))
      (fun _ hPc => by cases hPc) fun hPc => by cases hPc
  | tableUnlocking found =>
    simp only [ChannelDispatch.killEffect, hPc]
    cases found with
    | true =>
      exact h.of_kill hTurn rfl rfl rfl rfl rfl rfl (fun _ => hStill (by rw [hPc]; rfl))
        (fun _ hPc => by cases hPc) fun hPc => by cases hPc
    | false =>
      exact h.of_kill hTurn rfl rfl rfl rfl rfl rfl (fun hPc => by cases hPc)
        (fun hBy _ => h.cleared turn hTurn hBy (by rw [hPc]; rfl)) fun hPc => by cases hPc
  | joining =>
    have hFinished : s.current.channel = .finished := by simpa [killerEnabled, hTurn, hPc] using hEnabled
    simp only [ChannelDispatch.killEffect, hPc]
    exact h.of_kill hTurn rfl rfl rfl rfl rfl rfl (fun _ => hStill (by rw [hPc]; rfl))
      (fun _ hPc => by cases hPc) fun _ => hFinished
  | removing =>
    have hFinished := h.joined turn hTurn hPc
    simp only [ChannelDispatch.killEffect, hPc]
    refine ⟨fun _ => rfl, fun hRuns => absurd hFinished hRuns, fun turn' hTurn' hFound => ?_,
      fun _ _ _ _ => rfl, fun turn' hTurn' hJoined => ?_, fun _ hRuns => absurd hFinished hRuns,
      fun turn' hTurn' hBy => ?_, fun turn' hTurn' hBy => ?_⟩
    · cases hTurn'
      cases hFound
    · cases hTurn'
      cases hJoined
    · cases hTurn'
      exact h.activator turn hTurn hBy
    · cases hTurn'
      exact h.terminator turn hTurn hBy
  | killed =>
    simp only [ChannelDispatch.killEffect, hPc]
    cases hBy : turn.byTerminator with
    | true =>
      simp only [killLeave, hBy, if_true]
      exact ⟨h.fresh, h.owned, (fun _ hNone => by cases hNone), (fun _ hNone => by cases hNone),
        (fun _ hNone => by cases hNone), h.drained, (fun _ hNone => by cases hNone),
        (fun _ hNone => by cases hNone)⟩
    | false =>
      have hClear := h.cleared turn hTurn hBy (by rw [hPc]; rfl)
      have hKilling := h.activator turn hTurn hBy
      simp only [killLeave, hBy, Bool.false_eq_true, if_false]
      refine ⟨fun _ => hClear, fun hRuns => ?_, (fun _ hNone => by cases hNone),
        (fun _ hNone => by cases hNone), (fun _ hNone => by cases hNone), h.drained,
        (fun _ hNone => by cases hNone), (fun _ hNone => by cases hNone)⟩
      rcases h.owned hRuns with hRegistered | hHolds
      · exact .inl hRegistered
      · rw [hKilling] at hHolds
        cases hHolds

theorem effect (h : s.Incarnated) {e : DispatchEvent} (hGuard : s.guard proxyName e) :
    (s.effect print proxyName e).Incarnated := by
  cases e with
  | route | dropConn | caller | removeService | dropName =>
    have hFrame : ThreadFrame s (s.effect print proxyName _) := threadFrame_effect hGuard trivial
    exact h.of_quiet hFrame.registered hFrame.channel hFrame.activator hFrame.kill hFrame.drained
      (by rw [hFrame.terminator]; exact id)
  | channel e => exact h.channelEffect print e hGuard
  | proxy e =>
    obtain ⟨hFrame, -, hChannel, -⟩ := proxyEffect_frame s.current e
    exact h.of_quiet hFrame.registered hChannel rfl rfl rfl id
  | activate =>
    exact h.of_activator (by rw [hGuard]; decide) rfl rfl rfl rfl rfl (fun hNew => by cases hNew)
      fun _ hHolds => by rw [hGuard] at hHolds; cases hHolds
  | activator outcome pickIdle pickDispatcher pick => exact h.activatorEffect hGuard ..
  | pick =>
    refine h.of_quiet rfl rfl rfl rfl rfl fun hKilling => ?_
    rw [hGuard] at hKilling
    cases hKilling
  | terminator =>
    simp only [ChannelDispatch.effect, terminatorEffect]
    cases hPc : s.terminator with
    | idle | killing => exact h
    | unsenting | dropping =>
      refine h.of_quiet rfl rfl rfl rfl rfl fun hKilling => ?_
      rw [hPc] at hKilling
      cases hKilling
    | waiting =>
      refine ⟨h.fresh, h.owned, fun turn hTurn hFound => ?_, fun turn hTurn hBy => ?_,
        fun turn hTurn hJoined => ?_, h.drained, fun turn hTurn hBy => ?_, fun _ _ _ => rfl⟩
      · cases hTurn
        cases hFound
      · cases hTurn
        cases hBy
      · cases hTurn
        cases hJoined
      · cases hTurn
        cases hBy
  | killer pickIdle pickDispatcher pick =>
    simp only [ChannelDispatch.effect]
    split
    · exact h
    · rename_i turn hTurn
      exact h.killEffect hTurn hGuard ..
  | spurious => exact h.of_quiet rfl rfl rfl rfl rfl id

end Incarnated

/-! ## The requests in the tables -/

/-- What is in the tables was stored and listed, the envelope first, and nothing was twice. -/
structure Recorded (s : ChannelDispatch) : Prop where
  services : ∀ rid text, s.current.services.lookup rid = some text → (rid, text) ∈ s.history.stored
  listed : ∀ name rid, ListedUnder s.current.proxynames name rid → (name, rid) ∈ s.history.inserted
  inserted : ∀ name rid, (name, rid) ∈ s.history.inserted → rid ∈ s.history.stored.map Prod.fst
  naming : ∀ n rid, (s.callers n).naming = some rid → rid ∈ s.history.stored.map Prod.fst
  storedOnce : (s.history.stored.map Prod.fst).Nodup
  insertedOnce : (s.history.inserted.map Prod.snd).Nodup

namespace Recorded

theorem effect (h : s.Recorded) {e : DispatchEvent} (hGuard : s.guard proxyName e)
    (hFresh : s.Fresh e) : (s.effect print proxyName e).Recorded := by
  have hActs : ActsOn proxyName s (s.effect print proxyName e) (s.tableAction print e) :=
    actsOn_effect s e
  have hStored : ∀ rid, rid ∈ (s.effect print proxyName e).history.stored.map Prod.fst ↔
      rid ∈ s.history.stored.map Prod.fst ∨ rid ∈ (s.tableAction print e).stores.map Prod.fst := by
    intro rid
    rw [hActs.stored, List.map_append, List.mem_append]
  constructor
  · intro rid text hText
    rw [hActs.services] at hText
    rw [hActs.stored, List.mem_append]
    exact (TableAction.lookup_services hText).imp_left (h.services rid text)
  · intro name rid hListed
    rw [hActs.proxynames] at hListed
    rw [hActs.inserted, List.mem_append]
    exact (TableAction.listedUnder_proxynames hListed).imp_left (h.listed name rid)
  · intro name rid hInserted
    rw [hStored]
    rw [hActs.inserted, List.mem_append] at hInserted
    rcases hInserted with hOld | hNew
    · exact .inl (h.inserted name rid hOld)
    · obtain ⟨n, c, -, hNaming⟩ := caller_of_inserts hNew
      exact .inl (h.naming n rid hNaming)
  · intro n rid hNaming
    rw [hStored]
    exact (naming_effect hGuard hNaming).imp_left (h.naming n rid)
  · rw [hActs.stored, List.map_append]
    refine h.storedOnce.append ?_ fun rid hOld hNew => not_mem_of_stores hFresh hNew hOld
    cases s.tableAction print e <;> simp [TableAction.stores]
  · rw [hActs.inserted, List.map_append]
    refine h.insertedOnce.append ?_ fun rid hOld hNew => ?_
    · cases s.tableAction print e <;> simp [TableAction.inserts]
    · obtain ⟨⟨name, other⟩, hMem, rfl⟩ := List.mem_map.mp hNew
      exact not_mem_of_inserts hFresh hMem hOld

/-- A request that is listed has been stored, so its envelope does not come back. -/
theorem not_stores (h : s.Recorded) {e : DispatchEvent} (hFresh : s.Fresh e) {name : ProxyName}
    {rid : Rid} (hListed : ListedUnder s.current.proxynames name rid) :
    rid ∉ (s.tableAction print e).stores.map Prod.fst := fun hStores =>
  not_mem_of_stores hFresh hStores (h.inserted name rid (h.listed name rid hListed))

end Recorded

/-! ## Runs -/

/-- The invariants of every run under fresh ids. -/
structure Invariant (s : ChannelDispatch) : Prop where
  seated : Seated s.current
  answered : RequestAnswered s.current
  incarnated : s.Incarnated
  recorded : s.Recorded

theorem invariant_started : ChannelDispatch.started.Invariant where
  seated :=
    { locked :=
        { worker := by simp [started, startedProxyChannel, WorkerPc.holdsTable]
          killer := by simp [started, startedProxyChannel, KillerPc.holdsTable]
          tableOwner := by simp [started, startedProxyChannel]
          ctx := by simp [started, startedProxyChannel, ChannelPc.holdsCtx]
          ctxOwner := by simp [started, startedProxyChannel] }
      parked :=
        { idle := by simp [started, startedProxyChannel]
          idleNodup := List.nodup_nil
          dispatcher := by simp [started, startedProxyChannel]
          dispatcherNodup := List.nodup_nil
          wakeup := .inl rfl }
      workers := fun _ => rfl
      killer := rfl }
  answered := .of_not_answering rfl
  incarnated :=
    { fresh := by simp [started]
      owned := fun hRuns => absurd rfl hRuns
      found := by simp [started]
      cleared := by simp [started]
      joined := by simp [started]
      drained := by simp [started]
      activator := by simp [started]
      terminator := by simp [started] }
  recorded :=
    { services := by simp [started, startedProxyChannel]
      listed := by
        intro name rid hListed
        obtain ⟨sent, value, hValue, -⟩ := hListed
        cases hValue
      inserted := by simp [started]
      naming := by simp [started, CallerPc.naming]
      storedOnce := List.nodup_nil
      insertedOnce := List.nodup_nil }

theorem Invariant.effect (h : s.Invariant) {e : DispatchEvent} (hGuard : s.guard proxyName e)
    (hOrderly : s.Orderly e) : (s.effect print proxyName e).Invariant where
  seated := h.seated.step (currentStep_effect hGuard hOrderly.signalled)
  answered := h.answered.step h.seated (currentStep_effect hGuard hOrderly.signalled)
  incarnated := h.incarnated.effect hGuard
  recorded := h.recorded.effect hGuard hOrderly.fresh

end ChannelDispatch

end Gonggo
