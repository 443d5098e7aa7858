import Gonggo.Library.TransitionSystem
import Gonggo.Library.WaitGraph
import Gonggo.ProxySubscribe

/-! # Answers of one proxy

`proxy_subscribe` and `proxy_subscribe_stop` of proxysubscribe.c, with the proxy of the subscribe
sequence and the activation that starts the thread. A step runs from one call on the lock of the
segment to the next; the proxy sets the state and signals in one step.
-/

namespace Gonggo

/-- The threads that lock the segment of the answers. -/
inductive SubscribeParty
  | subscriber
  | proxy
  deriving DecidableEq, Repr

structure ProxySubscribeShm where
  lock : RobustMutex SubscribeParty
  dispatcherWakeup : Waiters SubscribeParty
  proxyWakeup : Waiters SubscribeParty
  state : ProxySubscribeState

/-- The subscribe thread; `waiting` lasts until it has the lock again. -/
inductive ProxySubscribePc
  | unborn
  | locking
  | testing
  | waiting
  | answering
  | leaving
  | finished
  deriving DecidableEq, Repr

/-- The proxy announces that it is idle, takes the next reply, posts it and waits for the result. -/
inductive AnswererPc
  | idling
  | idleLocked
  | composing
  | answerLocked
  | waiting
  | dead
  deriving DecidableEq, Repr

/-- How far the activation is: it makes the subscribe thread before the channel thread. -/
inductive SubscribeActivationPc
  | subscribeCreating
  | channelCreating
  | created
  deriving DecidableEq, Repr

structure SubscribeChannel where
  shm : ProxySubscribeShm
  stop : Bool
  activation : SubscribeActivationPc
  thread : ProxySubscribePc
  proxy : AnswererPc
  replies : Nat

/-- `done` is the result of `proxy_subscribe_exchange`; a dispatch by the channel thread brings the
proxy a number of replies to send. -/
inductive SubscribeEvent
  | create
  | createChannel
  | dispatch (replies : Nat)
  | thread (done : Bool)
  | lock
  | idle
  | post
  | wake
  | die
  | stop

namespace ProxySubscribeShm

variable (shm : ProxySubscribeShm)

def lockedBy (party : SubscribeParty) : ProxySubscribeShm := { shm with lock := .lockedBy party }

def unlocked : ProxySubscribeShm := { shm with lock := .free }

def withState (state : ProxySubscribeState) : ProxySubscribeShm := { shm with state := state }

def signalDispatcher : ProxySubscribeShm := { shm with dispatcherWakeup := shm.dispatcherWakeup.signal 0 }

def signalProxy : ProxySubscribeShm := { shm with proxyWakeup := shm.proxyWakeup.signal 0 }

def waitDispatcher : ProxySubscribeShm :=
  { shm with lock := .free, dispatcherWakeup := shm.dispatcherWakeup ++ [.subscriber] }

def waitProxy : ProxySubscribeShm :=
  { shm with lock := .free, proxyWakeup := shm.proxyWakeup ++ [.proxy] }

end ProxySubscribeShm

/-- The thread has the lock of the segment. -/
def ProxySubscribePc.holds : ProxySubscribePc → Bool
  | .testing | .answering | .leaving => true
  | _ => false

def AnswererPc.holds : AnswererPc → Bool
  | .idleLocked | .answerLocked => true
  | _ => false

/-- The thread has not had the lock yet. -/
def ProxySubscribePc.isEarly : ProxySubscribePc → Bool
  | .unborn | .locking => true
  | _ => false

namespace SubscribeChannel

variable (s : SubscribeChannel)

def started (replies : Nat) : SubscribeChannel where
  shm := ⟨.free, [], [], .subscribeInit⟩
  stop := false
  activation := .subscribeCreating
  thread := .unborn
  proxy := .idling
  replies := replies

def threadEnabled : Bool :=
  match s.thread with
  | .unborn | .finished => false
  | .locking => s.shm.lock.owner.isNone
  | .waiting => s.shm.lock.owner.isNone && decide (.subscriber ∉ s.shm.dispatcherWakeup)
  | .testing | .answering | .leaving => true

/-- A proxy that died with the lock ends the thread; so does the stop flag, which the thread looks at
before it waits, unlike an answer. -/
def threadEffect (done : Bool) : SubscribeChannel :=
  match s.thread with
  | .unborn | .finished => s
  | .locking =>
      { s with
        shm := s.shm.lockedBy .subscriber
        thread := if s.shm.lock.ownerDead then .leaving else .testing }
  | .testing =>
      if s.stop || decide (s.shm.state = .subscribeTermination) then { s with thread := .leaving }
      else { s with shm := s.shm.waitDispatcher, thread := .waiting }
  | .waiting =>
      { s with
        shm := s.shm.lockedBy .subscriber
        thread := if s.shm.lock.ownerDead then .leaving else .answering }
  | .answering =>
      if !s.stop && decide (s.shm.state = .subscribeAnswer) then
        { s with
          shm := (s.shm.withState (if done then .subscribeDone else .subscribeFailed)).signalProxy
          thread := .testing }
      else { s with thread := .testing }
  | .leaving => { s with shm := s.shm.unlocked, thread := .finished }

def lockEffect : SubscribeChannel :=
  match s.proxy with
  | .idling => { s with shm := s.shm.lockedBy .proxy, proxy := .idleLocked }
  | .composing => { s with shm := s.shm.lockedBy .proxy, proxy := .answerLocked }
  | _ => s

/-- Woken with another state than the two results, the proxy waits again. -/
def wakeEffect : SubscribeChannel :=
  if s.shm.state = .subscribeDone ∨ s.shm.state = .subscribeFailed then
    { s with shm := s.shm.unlocked, proxy := .idling }
  else { s with shm := s.shm.waitProxy }

def guard : SubscribeEvent → Prop
  | .create => s.activation = .subscribeCreating
  | .createChannel => s.activation = .channelCreating
  | .dispatch _ => s.activation = .created ∧ s.proxy ≠ .dead
  | .thread _ => s.threadEnabled = true
  | .lock => (s.proxy = .idling ∨ s.proxy = .composing ∧ 0 < s.replies) ∧ s.shm.lock.owner = none
  | .idle => s.proxy = .idleLocked
  | .post => s.proxy = .answerLocked
  | .wake => s.proxy = .waiting ∧ .proxy ∉ s.shm.proxyWakeup ∧ s.shm.lock.owner = none
  | .die => s.proxy ≠ .dead
  | .stop => s.activation ≠ .subscribeCreating ∧ s.shm.lock.owner = none

def effect : SubscribeEvent → SubscribeChannel
  | .create => { s with activation := .channelCreating, thread := .locking }
  | .createChannel => { s with activation := .created }
  | .dispatch replies => { s with replies := s.replies + replies }
  | .thread done => s.threadEffect done
  | .lock => s.lockEffect
  | .idle => { s with shm := (s.shm.withState .subscribeIdle).unlocked, proxy := .composing }
  | .post =>
      { s with
        shm := ((s.shm.withState .subscribeAnswer).signalDispatcher).waitProxy
        proxy := .waiting
        replies := s.replies - 1 }
  | .wake => s.wakeEffect
  | .die =>
      { s with
        shm :=
          { s.shm with
            lock := s.shm.lock.afterExit .proxy
            proxyWakeup := s.shm.proxyWakeup.filter (· ≠ .proxy) }
        proxy := .dead }
  | .stop =>
      { s with
        shm := ((s.shm.withState .subscribeTermination).signalDispatcher).unlocked
        stop := true }

/-- The thread sleeps without a signal while an answer is there. -/
def LosesAnswer : Prop :=
  s.thread = .waiting ∧ .subscriber ∈ s.shm.dispatcherWakeup ∧ s.shm.state = .subscribeAnswer

/-- The proxy posts an answer after the thread has had the lock. -/
def Awaited : SubscribeEvent → Prop
  | .post => s.thread.isEarly = false
  | _ => True

end SubscribeChannel

/-- Replies may be left from before the activation. -/
def subscribeChannelSystem : TransitionSystem SubscribeChannel SubscribeEvent where
  init s := ∃ replies, s = .started replies
  guard := SubscribeChannel.guard
  effect := SubscribeChannel.effect

namespace SubscribeChannel

variable {s : SubscribeChannel} {e : SubscribeEvent}

/-- The thread has the lock in its critical section and the proxy in its own; only the thread waits on
`dispatcher_wakeup`; it meets an answer before it sleeps only when it is to stop. -/
structure Heard (s : SubscribeChannel) : Prop where
  unborn : s.activation = .subscribeCreating → s.thread = .unborn
  threadOwner : s.thread.holds = true → s.shm.lock.owner = some .subscriber
  proxyOwner : s.proxy.holds = true → s.shm.lock.owner = some .proxy
  waiters : s.shm.dispatcherWakeup = [] ∨ s.thread = .waiting ∧ s.shm.dispatcherWakeup = [.subscriber]
  early : s.thread.isEarly = true → s.shm.state ≠ .subscribeAnswer
  testing : s.thread = .testing → s.shm.state = .subscribeAnswer → s.stop = true
  asleep : .subscriber ∈ s.shm.dispatcherWakeup → s.shm.state ≠ .subscribeAnswer

theorem started_heard (replies : Nat) : (started replies).Heard where
  unborn _ := rfl
  threadOwner h := by cases h
  proxyOwner h := by cases h
  waiters := .inl rfl
  early _ h := by cases h
  testing h := by cases h
  asleep h := by cases h

namespace Heard

theorem signal_eq_nil (h : s.Heard) : s.shm.dispatcherWakeup.signal 0 = [] := by
  rcases h.waiters with hNil | ⟨-, hOne⟩
  · rw [hNil]
    rfl
  · rw [hOne, Waiters.signal_singleton]

/-- Who has the lock keeps the other out of its critical section. -/
theorem proxy_out (h : s.Heard) (hOwner : s.shm.lock.owner ≠ some .proxy) : ¬ s.proxy.holds = true :=
  fun hHolds => hOwner (h.proxyOwner hHolds)

theorem thread_out (h : s.Heard) (hOwner : s.shm.lock.owner ≠ some .subscriber) :
    ¬ s.thread.holds = true :=
  fun hHolds => hOwner (h.threadOwner hHolds)

theorem waiters_eq_nil (h : s.Heard) (hThread : s.thread ≠ .waiting) : s.shm.dispatcherWakeup = [] := by
  rcases h.waiters with hNil | ⟨hWaiting, -⟩
  · exact hNil
  · exact (hThread hWaiting).elim

theorem locked (h : s.Heard) (hFree : s.shm.lock.owner = none) (hNil : s.shm.dispatcherWakeup = [])
    {pc : ProxySubscribePc} (hHolds : pc.holds = true) (hUnborn : s.thread ≠ .unborn)
    (hTesting : pc = .testing → s.shm.state ≠ .subscribeAnswer) :
    ({ s with shm := s.shm.lockedBy .subscriber, thread := pc } : SubscribeChannel).Heard where
  unborn hCreating := (hUnborn (h.unborn hCreating)).elim
  threadOwner _ := rfl
  proxyOwner hProxy := (h.proxy_out (by simp [hFree]) hProxy).elim
  waiters := .inl hNil
  early hEarly := by cases pc <;> cases hHolds <;> cases hEarly
  testing hPc hAnswer := (hTesting hPc hAnswer).elim
  asleep hMem := by
    simp only [ProxySubscribeShm.lockedBy, hNil] at hMem
    cases hMem

theorem threadEffect (h : s.Heard) (hEnabled : s.threadEnabled = true) (done : Bool) :
    (s.threadEffect done).Heard := by
  unfold threadEnabled at hEnabled
  unfold SubscribeChannel.threadEffect
  cases hPc : s.thread with
  | unborn | finished => exact h
  | locking =>
    simp only [hPc, Option.isNone_iff_eq_none] at hEnabled
    refine h.locked hEnabled (h.waiters_eq_nil (by simp [hPc])) ?_ (by simp [hPc])
      fun _ => h.early (by rw [hPc]; rfl)
    split <;> rfl
  | testing =>
    have hOwner := h.threadOwner (by rw [hPc]; rfl)
    have hNil := h.waiters_eq_nil (by simp [hPc])
    have hBorn : s.activation ≠ .subscribeCreating := fun hCreating => by simp [h.unborn hCreating] at hPc
    dsimp only
    split
    · exact ⟨fun hCreating => (hBorn hCreating).elim, fun _ => hOwner, h.proxyOwner, .inl hNil,
        (fun hEarly => by cases hEarly), (fun hTesting => by cases hTesting), h.asleep⟩
    · rename_i hGoes
      -- the thread goes to sleep: it has just seen that it need not stop
      have hStop : s.stop = false := by
        cases hStop : s.stop with
        | false => rfl
        | true => simp [hStop] at hGoes
      have hProxy := h.proxy_out (by simp [hOwner])
      refine ⟨fun hCreating => (hBorn hCreating).elim, fun hHolds => (by cases hHolds),
        fun hHolds => (hProxy hHolds).elim, .inr ⟨rfl, ?_⟩,
        (fun hEarly => by cases hEarly), (fun hTesting => by cases hTesting), fun _ hAnswer => ?_⟩
      · simp [ProxySubscribeShm.waitDispatcher, hNil]
      · have := h.testing hPc hAnswer
        simp [hStop] at this
  | waiting =>
    simp only [hPc, Bool.and_eq_true, Option.isNone_iff_eq_none, decide_eq_true_eq] at hEnabled
    have hNil : s.shm.dispatcherWakeup = [] := by
      rcases h.waiters with hNil | ⟨-, hOne⟩
      · exact hNil
      · exact (hEnabled.2 (by simp [hOne])).elim
    refine h.locked hEnabled.1 hNil ?_ (by simp [hPc]) ?_
    · split <;> rfl
    · split <;> exact fun hTesting => by cases hTesting
  | answering =>
    have hOwner := h.threadOwner (by rw [hPc]; rfl)
    have hNil := h.waiters_eq_nil (by simp [hPc])
    have hBorn : s.activation ≠ .subscribeCreating := fun hCreating => by simp [h.unborn hCreating] at hPc
    dsimp only
    split
    · refine ⟨fun hCreating => (hBorn hCreating).elim, fun _ => hOwner, h.proxyOwner, .inl hNil,
        (fun hEarly => by cases hEarly), fun _ hAnswer => ?_, fun hMem => ?_⟩
      · cases done <;> cases hAnswer
      · simp only [ProxySubscribeShm.signalProxy, ProxySubscribeShm.withState, hNil] at hMem
        cases hMem
    · rename_i hPassed
      refine ⟨fun hCreating => (hBorn hCreating).elim, fun _ => hOwner, h.proxyOwner, .inl hNil,
        (fun hEarly => by cases hEarly), fun _ hAnswer => ?_, h.asleep⟩
      have hState : s.shm.state = .subscribeAnswer := hAnswer
      simpa [hState] using hPassed
  | leaving =>
    have hOwner := h.threadOwner (by rw [hPc]; rfl)
    have hNil := h.waiters_eq_nil (by simp [hPc])
    have hProxy := h.proxy_out (by simp [hOwner])
    refine ⟨fun hCreating => (by simp [h.unborn hCreating] at hPc), fun hHolds => (by cases hHolds),
      fun hHolds => (hProxy hHolds).elim, .inl hNil, (fun hEarly => by cases hEarly),
      (fun hTesting => by cases hTesting), h.asleep⟩

theorem lockEffect (h : s.Heard) (hFree : s.shm.lock.owner = none) : s.lockEffect.Heard := by
  have hOut := h.thread_out (by simp [hFree])
  have hLocked {pc : AnswererPc} :
      ({ s with shm := s.shm.lockedBy .proxy, proxy := pc } : SubscribeChannel).Heard :=
    ⟨h.unborn, fun hHolds => (hOut hHolds).elim, fun _ => rfl, h.waiters, h.early, h.testing,
      h.asleep⟩
  unfold SubscribeChannel.lockEffect
  split
  · exact hLocked
  · exact hLocked
  · exact h

theorem wakeEffect (h : s.Heard) (hFree : s.shm.lock.owner = none) (hPc : s.proxy = .waiting) :
    s.wakeEffect.Heard := by
  have hOut := h.thread_out (by simp [hFree])
  unfold SubscribeChannel.wakeEffect
  split
  · exact ⟨h.unborn, fun hHolds => (hOut hHolds).elim, fun hHolds => (by cases hHolds),
      h.waiters, h.early, h.testing, h.asleep⟩
  · exact ⟨h.unborn, fun hHolds => (hOut hHolds).elim,
      fun hHolds => absurd hHolds (by simp [hPc, AnswererPc.holds]), h.waiters, h.early, h.testing, h.asleep⟩

theorem effect (h : s.Heard) (hGuard : s.guard e) (hAwaited : s.Awaited e) : (s.effect e).Heard := by
  cases e with
  | create =>
    have hPc := h.unborn hGuard
    exact ⟨fun hCreating => (by cases hCreating), fun hHolds => (by cases hHolds), h.proxyOwner,
      .inl (h.waiters_eq_nil (by simp [hPc])), fun _ => h.early (by rw [hPc]; rfl),
      (fun hTesting => by cases hTesting), h.asleep⟩
  | createChannel =>
    exact ⟨fun hCreating => (by cases hCreating), h.threadOwner, h.proxyOwner, h.waiters, h.early, h.testing,
      h.asleep⟩
  | dispatch => exact ⟨h.unborn, h.threadOwner, h.proxyOwner, h.waiters, h.early, h.testing, h.asleep⟩
  | thread done => exact h.threadEffect hGuard done
  | lock => exact h.lockEffect hGuard.2
  | idle =>
    have hOwner := h.proxyOwner (by rw [show s.proxy = .idleLocked from hGuard]; rfl)
    have hOut := h.thread_out (by simp [hOwner])
    exact ⟨h.unborn, fun hHolds => (hOut hHolds).elim, fun hHolds => (by cases hHolds),
      h.waiters, fun _ hAnswer => (by cases hAnswer), fun _ hAnswer => (by cases hAnswer),
      fun _ hAnswer => by cases hAnswer⟩
  | post =>
    -- the thread is neither early nor at its test, so it sleeps and is woken, or it is past the test
    have hOwner := h.proxyOwner (by rw [show s.proxy = .answerLocked from hGuard]; rfl)
    have hOut := h.thread_out (by simp [hOwner])
    have hNil : s.shm.dispatcherWakeup.signal 0 = [] := h.signal_eq_nil
    refine ⟨h.unborn, fun hHolds => (hOut hHolds).elim, fun hHolds => (by cases hHolds),
      .inl hNil, fun hEarly => (Bool.false_ne_true (hAwaited.symm.trans hEarly)).elim,
      fun hTesting => ?_, fun hMem => ?_⟩
    · have hTesting' : s.thread = .testing := hTesting
      exact (hOut (by rw [hTesting']; rfl)).elim
    · have hMem' : SubscribeParty.subscriber ∈ s.shm.dispatcherWakeup.signal 0 := hMem
      rw [hNil] at hMem'
      cases hMem'
  | wake => exact h.wakeEffect hGuard.2.2 hGuard.1
  | die =>
    refine ⟨h.unborn, fun hHolds => ?_, fun hHolds => (by cases hHolds), h.waiters, h.early, h.testing,
      h.asleep⟩
    have hOwner := h.threadOwner hHolds
    simp [effect, RobustMutex.afterExit, hOwner]
  | stop =>
    have hOut := h.thread_out (by simp [hGuard.2])
    have hProxy := h.proxy_out (by simp [hGuard.2])
    refine ⟨h.unborn, fun hHolds => (hOut hHolds).elim,
      fun hHolds => (hProxy hHolds).elim, .inl h.signal_eq_nil,
      fun _ hAnswer => (by cases hAnswer), fun _ _ => rfl, fun _ hAnswer => by cases hAnswer⟩

end Heard

/-- In a run whose answers are awaited no answer is lost. -/
theorem not_losesAnswer_of_awaited (h : subscribeChannelSystem.ReachableWhen Awaited s) : ¬ s.LosesAnswer := by
  have hHeard : s.Heard := by
    refine h.invariant Heard ?_ fun s e hHeard hGuard hAwaited => hHeard.effect hGuard hAwaited
    rintro s ⟨replies, rfl⟩
    exact started_heard replies
  rintro ⟨-, hAsleep, hAnswer⟩
  exact hHeard.asleep hAsleep hAnswer

/-! ## Sample runs -/

instance decidableGuard (s : SubscribeChannel) : ∀ e, Decidable (subscribeChannelSystem.guard s e)
  | .create | .createChannel | .dispatch _ | .thread _ | .lock | .idle | .post | .wake | .die | .stop =>
      by unfold subscribeChannelSystem guard; infer_instance

instance decidableAwaited (s : SubscribeChannel) : ∀ e, Decidable (s.Awaited e)
  | .post => inferInstanceAs (Decidable (_ = _))
  | .create | .createChannel | .dispatch _ | .thread _ | .lock | .idle | .wake | .die | .stop =>
      inferInstanceAs (Decidable True)

/-- The proxy sets the idle state and posts the next answer. -/
def sampleAnswering : List SubscribeEvent := [.lock, .idle, .lock, .post]

theorem not_losesAnswer_of_awaited_sampleAnswering :
    ¬ (subscribeChannelSystem.run (started 0)
      ([.create, .createChannel, .dispatch 1, .thread true, .thread true] ++
        sampleAnswering)).LosesAnswer := by
  have hStart : subscribeChannelSystem.ReachableWhen Awaited (started 0) := .init ⟨0, rfl⟩
  exact not_losesAnswer_of_awaited (hStart.run
    ([.create, .createChannel, .dispatch 1, .thread true, .thread true] ++ sampleAnswering) (by decide))

/-- The proxy answers a request that the channel thread hands over before the subscribe thread runs
for the first time, and the thread goes to sleep over the answer. -/
theorem losesAnswer_before_start : ¬ ∀ s, subscribeChannelSystem.Reachable s → ¬ s.LosesAnswer := by
  intro h
  have hStart : subscribeChannelSystem.Reachable (started 0) := .init ⟨0, rfl⟩
  have hReach := hStart.run
    ([.create, .createChannel, .dispatch 1] ++ sampleAnswering ++ [.thread true, .thread true]) (by decide)
  exact h _ hReach ⟨rfl, List.mem_singleton_self _, rfl⟩

end SubscribeChannel

end Gonggo
