import Gonggo.ProxyChannel

/-! # Activations of one proxy that time out

proxyactivator.c from the threads that proxy_activation has created to its return, over the channel
of proxychannel.c. The activation that times out lists the proxy in the array of proxies to be
terminated, wakes the channel thread and then stops it; only the channel thread takes the name out
of the array again. Activations of the proxy follow each other.
-/

namespace Gonggo

/-- The activator, after it has created the threads of an activation. Past the wait for the proxy
it knows whether the wait has timed out. -/
inductive ActivationStage
  | awaiting
  | setting
  | signalling
  | terminating (timedOut : Bool)
  | stopping (timedOut : Bool)
  | joining (timedOut : Bool)
  | returned
  | served
  deriving DecidableEq, Repr

/-- The activation has timed out, and its name was put into the array. -/
def ActivationStage.hasSet : ActivationStage → Bool
  | .signalling => true
  | .terminating timedOut | .stopping timedOut | .joining timedOut => timedOut
  | _ => false

structure ActivationRun where
  channel : ProxyChannel
  activator : ActivationStage

/-- Steps of the activator, and of everybody else at the channel. `again` is the next activation of
the proxy, once the threads of the last one are gone; `fails` is any other end of the wait. -/
inductive ActivationEvent
  | channel (e : ProxyChannelEvent)
  | timeOut
  | fails
  | succeeds
  | set
  | signal (pick : Nat)
  | terminate (timedOut : Bool) (pickIdle pickDispatcher : Nat)
  | stop (timedOut : Bool) (pick : Nat)
  | join (timedOut : Bool)
  | again (state : ProxyChannelState)

namespace ActivationRun

variable (proxyName : ProxyName) (s : ActivationRun)

/-- Workers and `proxy_thread_kill` come to the channel of an activation that has succeeded. -/
def channelGuard : ProxyChannelEvent → Prop
  | .worker n e => s.activator = .served ∧ s.channel.workerGuard n e
  | .killer e => s.activator = .served ∧ s.channel.killerGuard e
  | .table .terminateArraySet => False
  | e => s.channel.guard e

def guard : ActivationEvent → Prop
  | .channel e => s.channelGuard e
  | .timeOut | .fails | .succeeds => s.activator = .awaiting
  | .set => s.activator = .setting
  | .signal _ => s.activator = .signalling ∧ s.channel.ctxLock = none
  | .terminate timedOut _ _ =>
      s.activator = .terminating timedOut ∧ s.channel.shm.lock.owner = none
  | .stop timedOut _ => s.activator = .stopping timedOut ∧ s.channel.ctxLock = none
  | .join timedOut => s.activator = .joining timedOut ∧ s.channel.channel = .finished
  | .again state =>
      (s.activator = .returned ∨ s.activator = .served ∧ s.channel.registered = false) ∧
        s.channel.channel = .finished ∧ (state = .channelInit ∨ state = .channelIdle)

/-- The channel of a new activation; the tables and the array are those of the dispatcher. -/
def fresh (state : ProxyChannelState) : ProxyChannel :=
  { s.channel with
    registered := false
    ctxLock := none
    wakeup := []
    stop := false
    shm := ⟨.free, [], [], state, "", 0⟩
    proxyAlive := true
    channel := .started }

def effect : ActivationEvent → ActivationRun
  | .channel e => { s with channel := s.channel.effect proxyName e }
  | .timeOut => { s with activator := .setting }
  | .fails => { s with activator := .terminating false }
  | .succeeds => { s with channel := { s.channel with registered := true }, activator := .served }
  | .set => { s with channel := { s.channel with terminateArray := true }, activator := .signalling }
  | .signal pick =>
      { s with
        channel := { s.channel with wakeup := s.channel.wakeup.signal pick }
        activator := .terminating true }
  | .terminate timedOut pickIdle pickDispatcher =>
      { s with
        channel :=
          { s.channel with
            shm :=
              { s.channel.shm.unlocked.withState .channelTermination with
                idle := s.channel.shm.idle.signal pickIdle
                dispatcherWakeup := s.channel.shm.dispatcherWakeup.signal pickDispatcher } }
        activator := .stopping timedOut }
  | .stop timedOut pick =>
      { s with
        channel := { s.channel with stop := true, wakeup := s.channel.wakeup.signal pick }
        activator := .joining timedOut }
  | .join _ => { s with activator := .returned }
  | .again state => { channel := s.fresh state, activator := .awaiting }

/-- The first activation of a proxy: nobody has listed its name yet. -/
def Starts : Prop :=
  ∃ c : ProxyChannel, c.Starts ∧ c.terminateArray = false ∧
    s = { channel := { c with registered := false }, activator := .awaiting }

end ActivationRun

def activationSystem (proxyName : ProxyName) : TransitionSystem ActivationRun ActivationEvent where
  init s := s.Starts
  guard := ActivationRun.guard
  effect := ActivationRun.effect proxyName

/-- The channel thread is past its last look at the array. -/
def ChannelPc.hasLeft : ChannelPc → Bool
  | .leaving | .exiting | .finished => true
  | _ => false

/-- The channel thread has found its proxy in the array. -/
def ChannelPc.stopsProxy : ChannelPc → Bool
  | .locking .stopRequest | .waiting .stopRequest | .dropping => true
  | _ => false

namespace ActivationRun

/-- When an activation returns its proxy is not listed, and a channel thread stops a proxy only when
its own activation has timed out. -/
structure NoLeak (s : ActivationRun) : Prop where
  returned : s.activator = .returned → s.channel.terminateArray = false
  stops : s.channel.channel.stopsProxy = true → s.activator.hasSet = true

/-- The name is set when the channel thread has left already, or the channel thread leaves for
another reason while the name is set. -/
def Strands (proxyName : ProxyName) (s : ActivationRun) : ActivationEvent → Prop
  | .set => s.channel.channel.hasLeft = true
  | .channel (.channel e) =>
      s.channel.terminateArray = true ∧ s.channel.channel ≠ .dropping ∧
        s.channel.channel.hasLeft = false ∧
        (s.channel.channelEffect proxyName e).channel.hasLeft = true
  | _ => False

/-- The name is listed for a channel thread that is still to look. -/
structure Listed (s : ActivationRun) : Prop where
  set : s.channel.terminateArray = true → s.activator.hasSet = true
  present : s.channel.terminateArray = true → s.channel.channel.hasLeft = false
  stops : s.channel.channel.stopsProxy = true → s.activator.hasSet = true
  ended : s.activator = .returned → s.channel.channel = .finished

end ActivationRun

namespace ProxyChannel

variable {proxyName : ProxyName} {s : ProxyChannel}

theorem terminateArray_channelIdleWait (outcome : IdleWait) (job : ChannelJob) (created : Bool) :
    (s.channelIdleWait outcome job created).terminateArray = s.terminateArray := by
  cases outcome with
  | proceed =>
    cases job with
    | stopRequest => rfl
    | request rid text pending => cases created <;> rfl
  | refused => rfl
  | sleep => rfl

theorem stopsProxy_channelIdleWait {outcome : IdleWait} {job : ChannelJob} {created : Bool}
    (h : (s.channelIdleWait outcome job created).channel.stopsProxy = true) : job = .stopRequest := by
  cases job with
  | stopRequest => rfl
  | request rid text pending =>
    cases outcome with
    | proceed => cases created <;> cases h
    | refused => cases h
    | sleep => cases h

theorem channelAnswer_keeps (rid : Rid) (pending : List Rid) :
    (s.channelAnswer rid pending).terminateArray = s.terminateArray ∧
      (s.channelAnswer rid pending).channel.stopsProxy = false := by
  unfold channelAnswer
  split
  · exact ⟨rfl, rfl⟩
  · split <;> exact ⟨rfl, rfl⟩

theorem terminateArray_channelEffect {e : ChannelEvent}
    (h : (s.channelEffect proxyName e).terminateArray = true) : s.terminateArray = true := by
  cases e with
  | drop => cases h
  | idleLock job created => exact (terminateArray_channelIdleWait ..).symm.trans h
  | idleRelock job created => exact (terminateArray_channelIdleWait ..).symm.trans h
  | answer rid pending => exact (channelAnswer_keeps rid pending).1.symm.trans h
  | _ => exact h

/-- The channel thread turns to the stop request when it finds its proxy in the array. -/
theorem stopsProxy_channelEffect {e : ChannelEvent} (hGuard : s.channelGuard e)
    (h : (s.channelEffect proxyName e).channel.stopsProxy = true) :
    s.channel.stopsProxy = true ∨ s.terminateArray = true := by
  cases e with
  | check =>
    by_cases hStop : s.stop = true
    · simp [channelEffect, hStop, ChannelPc.stopsProxy] at h
    · by_cases hListed : s.terminateArray = true
      · exact .inr hListed
      · simp [channelEffect, hStop, hListed, ChannelPc.stopsProxy] at h
  | take rid pending =>
    cases hText : clientServiceTableDup s.services rid with
    | none => simp [channelEffect, hText, ChannelPc.stopsProxy] at h
    | some text => simp [channelEffect, hText, ChannelPc.stopsProxy] at h
  | idleLock job created =>
    rw [hGuard.1, stopsProxy_channelIdleWait h]
    exact .inl rfl
  | idleRelock job created =>
    rw [hGuard.1, stopsProxy_channelIdleWait h]
    exact .inl rfl
  | answer rid pending =>
    cases (channelAnswer_keeps rid pending).2.symm.trans h
  | _ => cases h

theorem not_channelGuard_of_finished (h : s.channel = .finished) (e : ChannelEvent) :
    ¬ s.channelGuard e := by
  cases e <;> simp [channelGuard, h]

theorem workerIdleWait_keeps (n : Nat) (outcome : IdleWait) (rid : Rid) (text : String) (created : Bool) :
    (s.workerIdleWait n outcome rid text created).terminateArray = s.terminateArray ∧
      (s.workerIdleWait n outcome rid text created).channel = s.channel := by
  cases outcome with
  | proceed => cases created <;> exact ⟨rfl, rfl⟩
  | refused => exact ⟨rfl, rfl⟩
  | sleep => exact ⟨rfl, rfl⟩

theorem proxyReact_keeps (fails : Bool) (pick : Nat) :
    (s.proxyReact fails pick).terminateArray = s.terminateArray ∧
      (s.proxyReact fails pick).channel = s.channel := by
  unfold proxyReact
  split <;> exact ⟨rfl, rfl⟩

theorem effect_keepsListed {e : ProxyChannelEvent} (hChannel : ∀ step, e ≠ .channel step)
    (hSet : e ≠ .table .terminateArraySet) :
    (s.effect proxyName e).terminateArray = s.terminateArray ∧
      (s.effect proxyName e).channel = s.channel := by
  cases e with
  | channel step => exact absurd rfl (hChannel step)
  | worker n step =>
    cases step with
    | idleLock rid text created => exact workerIdleWait_keeps ..
    | idleRelock rid text created => exact workerIdleWait_keeps ..
    | _ => exact ⟨rfl, rfl⟩
  | killer step => cases step <;> exact ⟨rfl, rfl⟩
  | proxy step =>
    cases step with
    | react fails pick => exact proxyReact_keeps ..
    | _ => exact ⟨rfl, rfl⟩
  | table step =>
    cases step with
    | terminateArraySet => exact absurd rfl hSet
    | _ => exact ⟨rfl, rfl⟩
  | spurious t => exact ⟨rfl, rfl⟩

end ProxyChannel

namespace ActivationRun

namespace Listed

variable {proxyName : ProxyName} {s : ActivationRun}

theorem started (h : s.Starts) : s.Listed := by
  obtain ⟨c, hStarts, hArray, rfl⟩ := h
  refine ⟨fun hListed => ?_, fun hListed => ?_, fun hStops => ?_, fun hReturned => ?_⟩
  · cases hArray.symm.trans hListed
  · cases hArray.symm.trans hListed
  · change c.channel.stopsProxy = true at hStops
    rw [hStarts.channel] at hStops
    cases hStops
  · cases hReturned

theorem notListed (h : s.Listed) (hEnded : s.channel.channel = .finished) :
    s.channel.terminateArray = false := by
  by_contra hListed
  have hPresent := h.present (by simpa using hListed)
  rw [hEnded] at hPresent
  cases hPresent

theorem of_activator (h : s.Listed) {next : ActivationRun}
    (hArray : next.channel.terminateArray = s.channel.terminateArray)
    (hChannel : next.channel.channel = s.channel.channel)
    (hSet : s.activator.hasSet = true → next.activator.hasSet = true)
    (hReturned : next.activator ≠ .returned) : next.Listed where
  set hListed := hSet (h.set (hArray ▸ hListed))
  present hListed := hChannel ▸ h.present (hArray ▸ hListed)
  stops hStops := hSet (h.stops (hChannel ▸ hStops))
  ended hAt := absurd hAt hReturned

theorem channelEffect (h : s.Listed) {e : ChannelEvent} (hGuard : s.channel.channelGuard e)
    (hStays : ¬ s.Strands proxyName (.channel (.channel e))) :
    (s.effect proxyName (.channel (.channel e))).Listed where
  set hListed := h.set (ProxyChannel.terminateArray_channelEffect hListed)
  present hListed := by
    have hOld := ProxyChannel.terminateArray_channelEffect hListed
    by_contra hLeft
    refine hStays ⟨hOld, ?_, h.present hOld, Bool.eq_true_of_not_eq_false hLeft⟩
    -- the only step from there takes the name out of the array
    intro hDropping
    cases e with
    | drop => cases hListed
    | _ => simp [ProxyChannel.channelGuard, hDropping] at hGuard
  stops hStops := by
    rcases ProxyChannel.stopsProxy_channelEffect hGuard hStops with hOld | hListed
    · exact h.stops hOld
    · exact h.set hListed
  ended hReturned := absurd hGuard (ProxyChannel.not_channelGuard_of_finished (h.ended hReturned) e)

theorem insideEffect (h : s.Listed) {e : ProxyChannelEvent} (hGuard : s.channelGuard e)
    (hStays : ¬ s.Strands proxyName (.channel e)) : (s.effect proxyName (.channel e)).Listed := by
  by_cases hChannel : ∃ step, e = .channel step
  · obtain ⟨step, rfl⟩ := hChannel
    exact h.channelEffect hGuard hStays
  · have hSet : e ≠ .table .terminateArraySet := by
      rintro rfl
      exact hGuard
    obtain ⟨hArray, hPc⟩ := @ProxyChannel.effect_keepsListed proxyName s.channel e
      (fun step hEq => hChannel ⟨step, hEq⟩) hSet
    exact ⟨fun hListed => h.set (hArray ▸ hListed), fun hListed => hPc ▸ h.present (hArray ▸ hListed),
      fun hStops => h.stops (hPc ▸ hStops), fun hReturned => hPc.trans (h.ended hReturned)⟩

theorem effect (h : s.Listed) {e : ActivationEvent} (hGuard : s.guard e)
    (hStays : ¬ s.Strands proxyName e) : (s.effect proxyName e).Listed := by
  cases e with
  | channel step => exact h.insideEffect hGuard hStays
  | timeOut | fails | succeeds =>
    have hAt : s.activator = .awaiting := hGuard
    refine h.of_activator rfl rfl (fun hSet => ?_) (by simp [ActivationRun.effect])
    rw [hAt] at hSet
    cases hSet
  | set =>
    have hAt : s.activator = .setting := hGuard
    refine ⟨fun _ => rfl, fun _ => ?_, fun _ => rfl, fun hReturned => by cases hReturned⟩
    exact Bool.eq_false_of_not_eq_true hStays
  | signal pick => exact h.of_activator rfl rfl (fun _ => rfl) (by simp [ActivationRun.effect])
  | terminate timedOut pickIdle pickDispatcher =>
    refine h.of_activator rfl rfl (fun hSet => ?_) (by simp [ActivationRun.effect])
    rw [hGuard.1] at hSet
    exact hSet
  | stop timedOut pick =>
    refine h.of_activator rfl rfl (fun hSet => ?_) (by simp [ActivationRun.effect])
    rw [hGuard.1] at hSet
    exact hSet
  | join timedOut =>
    have hArray := h.notListed hGuard.2
    refine ⟨fun hListed => ?_, fun hListed => ?_, fun hStops => ?_, fun _ => hGuard.2⟩
    · cases hArray.symm.trans hListed
    · cases hArray.symm.trans hListed
    · change s.channel.channel.stopsProxy = true at hStops
      rw [hGuard.2] at hStops
      cases hStops
  | again state =>
    have hArray := h.notListed hGuard.2.1
    refine ⟨fun hListed => ?_, fun hListed => ?_, fun hStops => ?_, fun hReturned => ?_⟩
    · cases hArray.symm.trans hListed
    · cases hArray.symm.trans hListed
    · cases hStops
    · cases hReturned

theorem noLeak (h : s.Listed) : s.NoLeak where
  returned hAt := h.notListed (h.ended hAt)
  stops := h.stops

end Listed

/-- In a run in which no channel thread leaves its name behind, no activation that has timed out
does. -/
theorem noLeak_of_reachable {proxyName : ProxyName} {s : ActivationRun}
    (h : (activationSystem proxyName).ReachableWhen (fun s e => ¬ s.Strands proxyName e) s) :
    s.NoLeak :=
  (h.invariant Listed (fun _ hInit => .started hInit)
    fun _ _ hListed hGuard hStays => hListed.effect hGuard hStays).noLeak

instance decidableChannelGuard (s : ActivationRun) : ∀ e, Decidable (s.channelGuard e)
  | .worker _ _ | .killer _ => inferInstanceAs (Decidable (_ ∧ _))
  | .table .terminateArraySet => inferInstanceAs (Decidable False)
  | .table (.serviceSet _ _) | .table (.serviceRemove _) | .table (.proxynameSet _ _)
  | .table (.proxynameDrop _ _) => inferInstanceAs (Decidable True)
  | .channel e => s.channel.decidableChannelGuard e
  | .proxy e => s.channel.decidableProxyGuard e
  | .spurious t => s.channel.decidableGuard (.spurious t)

instance decidableGuard (s : ActivationRun) : ∀ e, Decidable (s.guard e)
  | .channel e => s.decidableChannelGuard e
  | .timeOut | .fails | .succeeds | .set => inferInstanceAs (Decidable (_ = _))
  | .signal _ | .terminate _ _ _ | .stop _ _ | .join _ | .again _ =>
      inferInstanceAs (Decidable (_ ∧ _))

instance decidableStrands (proxyName : ProxyName) (s : ActivationRun) :
    ∀ e, Decidable (s.Strands proxyName e)
  | .set => inferInstanceAs (Decidable (_ = _))
  | .channel (.channel _) => inferInstanceAs (Decidable (_ ∧ _))
  | .channel (.worker _ _) | .channel (.killer _) | .channel (.proxy _) | .channel (.table _)
  | .channel (.spurious _) | .timeOut | .fails | .succeeds | .signal _ | .terminate _ _ _
  | .stop _ _ | .join _ | .again _ => inferInstanceAs (Decidable False)

instance decidableSystemGuard (proxyName : ProxyName) (s : ActivationRun) (e : ActivationEvent) :
    Decidable ((activationSystem proxyName).guard s e) :=
  s.decidableGuard e

def sampleActivation : ActivationRun where
  channel := { startedProxyChannel HashTable.empty HashTable.empty with registered := false }
  activator := .awaiting

theorem starts_sampleActivation : sampleActivation.Starts :=
  ⟨_, starts_startedProxyChannel HashTable.empty HashTable.empty, rfl, rfl⟩

/-- The channel thread sleeps, is woken by the time-out and stops the proxy. -/
def parkedTimeOut : List ActivationEvent :=
  [.channel (.channel .start), .channel (.channel .check), .channel (.channel .sleep), .timeOut,
    .set, .signal 0, .channel (.channel .wake), .channel (.channel .check),
    .channel (.channel (.idleLock .stopRequest true)), .channel (.channel .drop),
    .channel (.channel .leave), .terminate true 0 0, .stop true 0, .channel (.channel .exit),
    .join true, .again .channelIdle]

theorem noLeak_of_reachable_parkedTimeOut :
    ((activationSystem "p").run sampleActivation parkedTimeOut).NoLeak :=
  noLeak_of_reachable ((TransitionSystem.ReachableWhen.init starts_sampleActivation).run
    parkedTimeOut (by decide))

/-- The channel thread sleeps and gets the lock of its context only after it is told to stop. -/
def stoppedTimeOut : List ActivationEvent :=
  [.channel (.channel .start), .channel (.channel .check), .channel (.channel .sleep), .timeOut,
    .set, .signal 0, .terminate true 0 0, .stop true 0, .channel (.channel .wake),
    .channel (.channel .check), .channel (.channel .leave), .channel (.channel .exit), .join true]

theorem not_noLeak :
    ¬ ∀ s, (activationSystem "p").Reachable s → s.NoLeak := by
  intro h
  have hReach : (activationSystem "p").Reachable
      ((activationSystem "p").run sampleActivation stoppedTimeOut) :=
    (TransitionSystem.ReachableWhen.init starts_sampleActivation).run stoppedTimeOut (by decide)
  exact absurd ((h _ hReach).returned (by decide)) (by decide)

end ActivationRun

end Gonggo
