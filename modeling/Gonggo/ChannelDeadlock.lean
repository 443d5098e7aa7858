import Gonggo.ChannelExchange
import Gonggo.ChannelInvariants

/-! # Deadlock at a channel

Who waits for whom at a channel, and the schedules on which no cycle of waiting threads arises.
-/

namespace Gonggo

namespace ChannelPc

def rank : ChannelPc → Nat
  | .started | .asleep => 4
  | .locking _ | .waiting _ | .answering _ _ => 1
  | _ => 0

end ChannelPc

namespace WorkerPc

def rank : WorkerPc → Nat
  | .tableLocking _ => 5
  | .ctxLocking => 4
  | .locking _ _ | .waiting _ _ | .answering => 1
  | _ => 0

end WorkerPc

namespace KillerPc

def rank : KillerPc → Nat
  | .tableLocking | .joining | .removing => 5
  | .stopping => 4
  | .terminating => 1
  | _ => 0

end KillerPc

namespace ProxyChannel

variable {proxyName : ProxyName} {s : ProxyChannel}

/-! ## Runs in which every sleeper is attended to -/

/-- The channel thread sleeps on a condition of a dead proxy. -/
def Stranded (s : ProxyChannel) : Prop :=
  s.proxyAlive = false ∧
    (ChannelThread.channel ∈ s.shm.idle ∨ ChannelThread.channel ∈ s.shm.dispatcherWakeup)

/-- The channel thread goes to sleep on a condition of the segment. -/
def ChannelSleeps (outcome : IdleWait) (job : ChannelJob) (created : Bool) : Prop :=
  outcome = .sleep ∨ outcome = .proceed ∧ job ≠ .stopRequest ∧ created = true

def WorkerSleeps (outcome : IdleWait) (created : Bool) : Prop :=
  outcome = .sleep ∨ outcome = .proceed ∧ created = true

/-- A request waits for the lock of the channel with the table lock held. -/
def RequestWaits (s : ProxyChannel) : Prop := ∃ n, s.workers n = .ctxLocking

/-- The step leaves nobody asleep at a dead proxy with the table lock held, by itself or through a
request that waits for the lock of the channel, and leaves no lock with a worker. -/
def Attended (s : ProxyChannel) : ProxyChannelEvent → Prop
  | .proxy .die =>
      (∀ n, ChannelThread.worker n ∉ s.shm.idle ∧ ChannelThread.worker n ∉ s.shm.dispatcherWakeup) ∧
        (ChannelThread.channel ∈ s.shm.idle ∨ ChannelThread.channel ∈ s.shm.dispatcherWakeup →
          ¬ s.RequestWaits)
  | .channel (.idleLock job created) =>
      s.proxyAlive = false → ChannelSleeps s.shm.idleWaitLocked job created → ¬ s.RequestWaits
  | .channel (.idleRelock job created) =>
      s.proxyAlive = false → ChannelSleeps s.shm.idleWaitWoken job created → ¬ s.RequestWaits
  | .worker _ (.find job reach) => job = .route ∨ job = .dropConn → reach = true → ¬ s.Stranded
  | .worker _ (.idleLock _ _ created) =>
      s.shm.idleWaitLocked ≠ .refused ∧
        (s.proxyAlive = false → ¬ WorkerSleeps s.shm.idleWaitLocked created)
  | .worker _ (.idleRelock _ _ created) =>
      s.shm.idleWaitWoken ≠ .refused ∧
        (s.proxyAlive = false → ¬ WorkerSleeps s.shm.idleWaitWoken created)
  | _ => True

/-- The lock of the segment is with the proxy, or with the channel thread at a place where that
asks for nothing else. -/
def ShmOwned (s : ProxyChannel) : Prop :=
  ∀ t, s.shm.lock.owner = some t → t = .proxy ∨ t = .channel ∧ s.channel.mayHoldShm = true

namespace ShmOwned

variable {s' : ProxyChannel}

theorem of_free (hLock : s'.shm.lock.owner = none) : s'.ShmOwned := by
  intro t ht
  rw [hLock] at ht
  cases ht

theorem of_channel (hLock : s'.shm.lock.owner = some .channel) (hPc : s'.channel.mayHoldShm = true) :
    s'.ShmOwned := by
  intro t ht
  rw [hLock, Option.some.injEq] at ht
  exact .inr ⟨ht.symm, hPc⟩

theorem of_same (h : s.ShmOwned) (hLock : s'.shm.lock.owner = s.shm.lock.owner)
    (hPc : s.channel.mayHoldShm = true → s'.channel.mayHoldShm = true) : s'.ShmOwned := by
  intro t ht
  rw [hLock] at ht
  exact (h t ht).imp_right fun hChannel => ⟨hChannel.1, hPc hChannel.2⟩

theorem channelIdleWait (s : ProxyChannel) (outcome : IdleWait) (job : ChannelJob) (created : Bool) :
    (s.channelIdleWait outcome job created).ShmOwned := by
  cases outcome with
  | sleep => exact of_free rfl
  | refused => cases job <;> exact of_channel rfl rfl
  | proceed => cases job <;> cases created <;> exact of_free rfl

theorem channelEffect (h : s.ShmOwned) (proxyName : ProxyName) (e : ChannelEvent)
    (hGuard : s.channelGuard e) : (s.channelEffect proxyName e).ShmOwned := by
  have hNot : ∀ {pc : ChannelPc}, s.channel = pc → pc.mayHoldShm = false →
      ∀ {b : Bool}, s.channel.mayHoldShm = true → b = true := by
    rintro pc rfl hFalse b hTrue
    rw [hFalse] at hTrue
    cases hTrue
  cases e with
  | start | wake => exact h.of_same rfl (hNot hGuard.1 rfl)
  | check | take | sleep => exact h.of_same rfl (hNot hGuard rfl)
  | idleLock job created => exact channelIdleWait s _ job created
  | idleRelock job created => exact channelIdleWait s _ job created
  | answer rid pending =>
    simp only [ProxyChannel.channelEffect, channelAnswer]
    split_ifs
    · exact of_free rfl
    · exact of_channel rfl rfl
    · exact of_free rfl
  | sent rid pending => exact of_free rfl
  | drop | leave => exact h.of_same rfl fun _ => rfl
  | exit =>
    by_cases hOwn : s.shm.lock.owner = some .channel
    · apply of_free
      simp [ProxyChannel.channelEffect, RobustMutex.afterExit, hOwn, RobustMutex.abandoned]
    · intro t ht
      simp only [ProxyChannel.channelEffect, RobustMutex.afterExit, if_neg hOwn] at ht
      exact (h t ht).imp_right fun hChannel => absurd (hChannel.1 ▸ ht) hOwn

theorem workerEffect (h : s.ShmOwned) (n : Nat) (e : WorkerEvent) (hAttended : s.Attended (.worker n e)) :
    (s.workerEffect n e).ShmOwned := by
  cases e with
  | idleLock rid text created =>
    simp only [ProxyChannel.workerEffect]
    cases hOutcome : s.shm.idleWaitLocked with
    | refused => exact absurd hOutcome hAttended.1
    | sleep => exact of_free rfl
    | proceed => cases created <;> exact of_free rfl
  | idleRelock rid text created =>
    simp only [ProxyChannel.workerEffect]
    cases hOutcome : s.shm.idleWaitWoken with
    | refused => exact absurd hOutcome hAttended.1
    | sleep => exact of_free rfl
    | proceed => cases created <;> exact of_free rfl
  | answer =>
    simp only [ProxyChannel.workerEffect]
    split_ifs <;> exact of_free rfl
  | start | takeTable | find | wake | releaseTable => exact h.of_same rfl id

theorem killerEffect (h : s.ShmOwned) (proxyName : ProxyName) (e : KillerEvent) :
    (s.killerEffect proxyName e).ShmOwned := by
  cases e with
  | terminate pickIdle pickDispatcher => exact of_free rfl
  | unsent | enter | takeTable | find | stop | releaseTable | join | remove | drop | leave =>
    exact h.of_same rfl id

theorem proxyEffect (h : s.ShmOwned) (e : ProxyEvent) : (s.proxyEffect e).ShmOwned := by
  cases e with
  | lock => exact fun t ht => .inl (Option.some.inj ht).symm
  | react fails pick =>
    simp only [ProxyChannel.proxyEffect, proxyReact]
    split <;> exact h.of_same rfl id
  | unlock => exact of_free rfl
  | die =>
    by_cases hOwn : s.shm.lock.owner = some .proxy
    · apply of_free
      simp [ProxyChannel.proxyEffect, RobustMutex.afterExit, hOwn, RobustMutex.abandoned]
    · refine h.of_same ?_ id
      simp [ProxyChannel.proxyEffect, RobustMutex.afterExit, hOwn]

theorem effect (h : s.ShmOwned) (proxyName : ProxyName) (e : ProxyChannelEvent) (hGuard : s.guard e)
    (hAttended : s.Attended e) : (s.effect proxyName e).ShmOwned := by
  cases e with
  | channel e => exact h.channelEffect proxyName e hGuard
  | worker n e => exact h.workerEffect n e hAttended
  | killer e => exact h.killerEffect proxyName e
  | proxy e => exact h.proxyEffect e
  | table e => cases e <;> exact h.of_same rfl id
  | spurious t => exact h.of_same rfl id

end ShmOwned

/-- At a dead proxy no worker sleeps, and no request waits behind a sleeping channel thread. -/
structure Manned (s : ProxyChannel) : Prop where
  workers : s.proxyAlive = false → ∀ n,
    ChannelThread.worker n ∉ s.shm.idle ∧ ChannelThread.worker n ∉ s.shm.dispatcherWakeup
  channel : s.Stranded → ¬ s.RequestWaits

namespace Manned

variable {s' : ProxyChannel}

theorem of_subset (h : s.Manned) (hAlive : s'.proxyAlive = s.proxyAlive)
    (hIdle : ∀ t ∈ s'.shm.idle, t ∈ s.shm.idle)
    (hDispatcher : ∀ t ∈ s'.shm.dispatcherWakeup, t ∈ s.shm.dispatcherWakeup)
    (hWaits : s.Stranded → s'.RequestWaits → s.RequestWaits) : s'.Manned where
  workers hDead n := by
    obtain ⟨hNotIdle, hNotDispatcher⟩ := h.workers (hAlive ▸ hDead) n
    exact ⟨fun hMem => hNotIdle (hIdle _ hMem), fun hMem => hNotDispatcher (hDispatcher _ hMem)⟩
  channel hStranded hRequest := by
    obtain ⟨hDead, hAsleep⟩ := hStranded
    have hOld : s.Stranded := ⟨hAlive ▸ hDead, hAsleep.imp (hIdle _) (hDispatcher _)⟩
    exact h.channel hOld (hWaits hOld hRequest)

theorem of_alive (hAlive : s'.proxyAlive = true) : s'.Manned where
  workers hDead := by rw [hAlive] at hDead; cases hDead
  channel hStranded := by rw [Stranded, hAlive] at hStranded; cases hStranded.1

theorem channelIdleWait (h : s.Manned) (outcome : IdleWait) (job : ChannelJob) (created : Bool)
    (hAttended : s.proxyAlive = false → ChannelSleeps outcome job created → ¬ s.RequestWaits) :
    (s.channelIdleWait outcome job created).Manned := by
  have hWorkers : s.proxyAlive = false → ∀ n,
      ChannelThread.worker n ∉ s.shm.idle ++ [.channel] ∧
        ChannelThread.worker n ∉ s.shm.dispatcherWakeup ++ [.channel] := by
    intro hDead n
    obtain ⟨hNotIdle, hNotDispatcher⟩ := h.workers hDead n
    simp [hNotIdle, hNotDispatcher]
  cases outcome with
  | refused => exact h.of_subset rfl (fun _ => id) (fun _ => id) fun _ => id
  | sleep =>
    exact ⟨fun hDead n => ⟨(hWorkers hDead n).1, (h.workers hDead n).2⟩,
      fun hStranded => hAttended hStranded.1 (.inl rfl)⟩
  | proceed =>
    cases job with
    | stopRequest => exact h.of_subset rfl (fun _ => id) (fun _ => id) fun _ => id
    | request rid text pending =>
      cases created with
      | true =>
        exact ⟨fun hDead n => ⟨(h.workers hDead n).1, (hWorkers hDead n).2⟩,
          fun hStranded => hAttended hStranded.1 (.inr ⟨rfl, nofun, rfl⟩)⟩
      | false => exact h.of_subset rfl (fun _ => id) (fun _ => id) fun _ => id

theorem channelEffect (h : s.Manned) (proxyName : ProxyName) (e : ChannelEvent)
    (hAttended : s.Attended (.channel e)) : (s.channelEffect proxyName e).Manned := by
  cases e with
  | idleLock job created => exact h.channelIdleWait _ job created hAttended
  | idleRelock job created => exact h.channelIdleWait _ job created hAttended
  | answer rid pending =>
    simp only [ProxyChannel.channelEffect, channelAnswer]
    split_ifs <;> exact h.of_subset rfl (fun _ => id) (fun _ => id) fun _ => id
  | start | check | take | sleep | wake | sent | drop | leave | exit =>
    exact h.of_subset rfl (fun _ => id) (fun _ => id) fun _ => id

theorem of_worker (h : s.Manned) {n : Nat} {pc : WorkerPc}
    (hWorkers : s'.workers = Function.update s.workers n pc) (hAlive : s'.proxyAlive = s.proxyAlive)
    (hIdle : ∀ t ∈ s'.shm.idle, t ∈ s.shm.idle)
    (hDispatcher : ∀ t ∈ s'.shm.dispatcherWakeup, t ∈ s.shm.dispatcherWakeup)
    (hPc : s.Stranded → pc ≠ .ctxLocking) : s'.Manned := by
  refine h.of_subset hAlive hIdle hDispatcher fun hStranded hRequest => ?_
  obtain ⟨m, hm⟩ := hRequest
  rw [hWorkers, Function.update_apply] at hm
  split at hm
  · exact absurd hm (hPc hStranded)
  · exact ⟨m, hm⟩

theorem workerIdleWait (h : s.Manned) (n : Nat) {outcome : IdleWait} {created : Bool} (rid : Rid)
    (text : String) (hAttended : s.proxyAlive = false → ¬ WorkerSleeps outcome created) :
    (s.workerIdleWait n outcome rid text created).Manned := by
  have hAlive : WorkerSleeps outcome created → s.proxyAlive = true := fun hSleeps =>
    Bool.of_not_eq_false fun hDead => hAttended hDead hSleeps
  cases outcome with
  | refused => exact h.of_worker rfl rfl (fun _ => id) (fun _ => id) fun _ hPc => by cases hPc
  | sleep => exact of_alive (hAlive (.inl rfl))
  | proceed =>
    cases created with
    | true => exact of_alive (hAlive (.inr ⟨rfl, rfl⟩))
    | false => exact h.of_worker rfl rfl (fun _ => id) (fun _ => id) fun _ hPc => by cases hPc

theorem workerEffect (h : s.Manned) (n : Nat) (e : WorkerEvent)
    (hAttended : s.Attended (.worker n e)) : (s.workerEffect n e).Manned := by
  cases e with
  | find job reach =>
    refine h.of_worker rfl rfl (fun _ => id) (fun _ => id) fun hStranded hPc => ?_
    cases reach with
    | false => cases hPc
    | true =>
      cases job with
      | rest => cases hPc
      | route => exact hAttended (.inl rfl) rfl hStranded
      | dropConn => exact hAttended (.inr rfl) rfl hStranded
  | idleLock rid text created => exact h.workerIdleWait n rid text hAttended.2
  | idleRelock rid text created => exact h.workerIdleWait n rid text hAttended.2
  | answer =>
    simp only [ProxyChannel.workerEffect]
    split_ifs <;> exact h.of_worker rfl rfl (fun _ => id) (fun _ => id) fun _ hPc => by cases hPc
  | start | takeTable | wake | releaseTable =>
    exact h.of_worker rfl rfl (fun _ => id) (fun _ => id) fun _ hPc => by cases hPc

theorem killerEffect (h : s.Manned) (proxyName : ProxyName) (e : KillerEvent) :
    (s.killerEffect proxyName e).Manned := by
  cases e with
  | terminate pickIdle pickDispatcher =>
    exact h.of_subset rfl (fun _ => Waiters.mem_of_mem_signal) (fun _ => Waiters.mem_of_mem_signal)
      fun _ => id
  | unsent | enter | takeTable | find | stop | releaseTable | join | remove | drop | leave =>
    exact h.of_subset rfl (fun _ => id) (fun _ => id) fun _ => id

theorem proxyEffect (h : s.Manned) (e : ProxyEvent) (hAttended : s.Attended (.proxy e)) :
    (s.proxyEffect e).Manned := by
  cases e with
  | react fails pick =>
    simp only [ProxyChannel.proxyEffect, proxyReact]
    split
    · exact h
    · exact h.of_subset rfl (fun _ => Waiters.mem_of_mem_signal) (fun _ => id) fun _ => id
    · exact h.of_subset rfl (fun _ => id) (fun _ => Waiters.mem_of_mem_signal) fun _ => id
  | die => exact ⟨fun _ => hAttended.1, fun hStranded => hAttended.2 hStranded.2⟩
  | lock | unlock => exact h.of_subset rfl (fun _ => id) (fun _ => id) fun _ => id

theorem effect (h : s.Manned) (proxyName : ProxyName) (e : ProxyChannelEvent)
    (hAttended : s.Attended e) : (s.effect proxyName e).Manned := by
  cases e with
  | channel e => exact h.channelEffect proxyName e hAttended
  | worker n e => exact h.workerEffect n e hAttended
  | killer e => exact h.killerEffect proxyName e
  | proxy e => exact h.proxyEffect e hAttended
  | table e => cases e <;> exact h.of_subset rfl (fun _ => id) (fun _ => id) fun _ => id
  | spurious t =>
    exact h.of_subset rfl (fun _ => List.mem_of_mem_erase) (fun _ => List.mem_of_mem_erase) fun _ => id

end Manned

/-! ## Who waits for whom -/

def WantsTable (s : ProxyChannel) : ChannelThread → Prop
  | .worker n => ∃ job, s.workers n = .tableLocking job
  | .killer => s.killer = .tableLocking ∨ s.killer = .removing
  | _ => False

def WantsCtx (s : ProxyChannel) : ChannelThread → Prop
  | .channel => s.channel = .started ∨ s.channel = .asleep ∧ ChannelThread.channel ∉ s.wakeup
  | .worker n => s.workers n = .ctxLocking
  | .killer => s.killer = .stopping
  | .proxy => False

/-- The proxy needs the lock whenever there is something to react to. -/
def WantsShm (s : ProxyChannel) : ChannelThread → Prop
  | .channel =>
      (∃ job, s.channel = .locking job) ∨
        s.channel.isWaiting = true ∧ ChannelThread.channel ∉ s.shm.idle ∨
        s.channel.isAnswering = true ∧ ChannelThread.channel ∉ s.shm.dispatcherWakeup
  | .worker n =>
      (∃ rid text, s.workers n = .locking rid text) ∨
        (s.workers n).isWaiting = true ∧ ChannelThread.worker n ∉ s.shm.idle ∨
        (s.workers n).isAnswering = true ∧ ChannelThread.worker n ∉ s.shm.dispatcherWakeup
  | .killer => s.killer = .terminating
  | .proxy =>
      s.proxyAlive = true ∧ s.shm.lock.owner ≠ some .proxy ∧
        (proxyReaction false s.shm.state).isSome = true

/-- The thread sleeps on a condition of the segment and nobody has woken it. -/
def SleepsAtShm (s : ProxyChannel) (t : ChannelThread) : Prop :=
  t ∈ s.shm.idle ∨ t ∈ s.shm.dispatcherWakeup

/-- The proxy has answered and waits for the exchange to be marked done. -/
def AwaitsDone (s : ProxyChannel) : Prop :=
  s.shm.state = .channelAcknowledged ∨ s.shm.state = .channelFails ∨ s.shm.state = .channelRestRespond

/-- The first thread waits for a lock that the second one owns, for a signal or a mark that is left to
the second one, or for its end. -/
inductive WaitsFor (s : ProxyChannel) : ChannelThread → ChannelThread → Prop
  | table {t u : ChannelThread} : s.WantsTable t → s.tableLock = some u → WaitsFor s t u
  | ctx {t u : ChannelThread} : s.WantsCtx t → s.ctxLock = some u → WaitsFor s t u
  | shm {t u : ChannelThread} : s.WantsShm t → s.shm.lock.owner = some u → WaitsFor s t u
  | orphaned {t : ChannelThread} : s.proxyAlive = false → s.SleepsAtShm t → WaitsFor s t .killer
  | served {t : ChannelThread} : s.proxyAlive = true → s.SleepsAtShm t → WaitsFor s t .proxy
  | done {t : ChannelThread} :
      s.proxyAlive = true → s.shm.lock.owner ≠ some .proxy → s.AwaitsDone → s.answerWaiting t = true →
        WaitsFor s .proxy t
  | wakeup : s.killer = .joining → ChannelThread.channel ∈ s.wakeup → WaitsFor s .channel .killer
  | join : s.killer = .joining → s.channel ≠ .finished → WaitsFor s .killer .channel

instance decidableSleepsAtShm (s : ProxyChannel) (t : ChannelThread) : Decidable (s.SleepsAtShm t) :=
  inferInstanceAs (Decidable (_ ∨ _))

/-- A thread waits only for threads of lower rank. -/
def rank (s : ProxyChannel) (t : ChannelThread) : Nat :=
  match t with
  | .channel =>
      if s.SleepsAtShm .channel then (if s.proxyAlive then 3 else 6) else s.channel.rank
  | .worker n => if s.SleepsAtShm (.worker n) then 3 else (s.workers n).rank
  | .killer => s.killer.rank
  | .proxy => if s.shm.lock.owner = some .proxy then 0 else 2

theorem rank_channel_of_stranded (h : s.Stranded) : s.rank .channel = 6 := by
  rw [rank, if_pos (show s.SleepsAtShm .channel from h.2), h.1]
  rfl

theorem rank_channel_of_awake (h : ¬ s.SleepsAtShm .channel) : s.rank .channel = s.channel.rank :=
  if_neg h

theorem rank_worker_of_awake {n : Nat} (h : ¬ s.SleepsAtShm (.worker n)) :
    s.rank (.worker n) = (s.workers n).rank :=
  if_neg h

theorem Parked.waiting_of_sleepsAtShm (hParked : s.Parked) {t : ChannelThread} (h : s.SleepsAtShm t) :
    s.idleWaiting t = true ∨ s.answerWaiting t = true :=
  h.imp (hParked.idle t) (hParked.dispatcher t)

theorem Parked.channel_awake (hParked : s.Parked) (hWaiting : s.channel.isWaiting = false)
    (hAnswering : s.channel.isAnswering = false) : ¬ s.SleepsAtShm .channel := by
  rintro (hMem | hMem)
  · exact hParked.channel_not_idle hWaiting hMem
  · exact hParked.channel_not_dispatcher hAnswering hMem

theorem Parked.worker_awake (hParked : s.Parked) {n : Nat} (hWaiting : (s.workers n).isWaiting = false)
    (hAnswering : (s.workers n).isAnswering = false) : ¬ s.SleepsAtShm (.worker n) := by
  rintro (hMem | hMem)
  · exact hParked.worker_not_idle hWaiting hMem
  · exact hParked.worker_not_dispatcher hAnswering hMem

theorem rank_wantsTable (hParked : s.Parked) {t : ChannelThread} (h : s.WantsTable t) : s.rank t = 5 := by
  cases t with
  | worker n =>
    obtain ⟨job, hAt⟩ := h
    rw [rank_worker_of_awake (hParked.worker_awake (by rw [hAt]; rfl) (by rw [hAt]; rfl)), hAt]
    rfl
  | killer =>
    rcases h with hAt | hAt <;> rw [rank, hAt] <;> rfl
  | channel => cases h
  | proxy => cases h

theorem rank_tableOwner (hLocked : s.Locked) {t : ChannelThread} (h : s.tableLock = some t) :
    s.rank t < 5 := by
  rcases hLocked.tableOwner t h with ⟨n, rfl⟩ | rfl
  · have hHolds := (hLocked.worker n).mpr h
    rw [rank]
    split_ifs
    · decide
    · revert hHolds
      cases s.workers n <;> simp [WorkerPc.holdsTable, WorkerPc.rank]
  · have hHolds := hLocked.killer.mpr h
    rw [rank]
    revert hHolds
    cases s.killer <;> simp [KillerPc.holdsTable, KillerPc.rank]

theorem rank_channelPc_of_waiting {pc : ChannelPc} (h : pc.isWaiting = true ∨ pc.isAnswering = true) :
    pc.rank = 1 := by
  cases pc <;> simp_all [ChannelPc.isWaiting, ChannelPc.isAnswering, ChannelPc.rank]

theorem rank_workerPc_of_waiting {pc : WorkerPc} (h : pc.isWaiting = true ∨ pc.isAnswering = true) :
    pc.rank = 1 := by
  cases pc <;> simp_all [WorkerPc.isWaiting, WorkerPc.isAnswering, WorkerPc.rank]

theorem rank_wantsShm {t : ChannelThread} (h : s.WantsShm t) : 0 < s.rank t := by
  cases t with
  | channel =>
    have hPc : s.channel.rank = 1 := by
      rcases h with ⟨job, hAt⟩ | ⟨hAt, -⟩ | ⟨hAt, -⟩
      · rw [hAt]
        rfl
      · exact rank_channelPc_of_waiting (.inl hAt)
      · exact rank_channelPc_of_waiting (.inr hAt)
    rw [rank, hPc]
    split_ifs <;> decide
  | worker n =>
    have hPc : (s.workers n).rank = 1 := by
      rcases h with ⟨rid, text, hAt⟩ | ⟨hAt, -⟩ | ⟨hAt, -⟩
      · rw [hAt]
        rfl
      · exact rank_workerPc_of_waiting (.inl hAt)
      · exact rank_workerPc_of_waiting (.inr hAt)
    rw [rank, hPc]
    split_ifs <;> decide
  | killer =>
    rw [rank, show s.killer = .terminating from h]
    exact Nat.one_pos
  | proxy =>
    rw [rank, if_neg h.2.1]
    exact Nat.two_pos

theorem rank_shmOwner (hParked : s.Parked) (hOwned : s.ShmOwned) {t : ChannelThread}
    (h : s.shm.lock.owner = some t) : s.rank t = 0 := by
  rcases hOwned t h with rfl | ⟨rfl, hPc⟩
  · exact if_pos h
  · have hAwake : ¬ s.SleepsAtShm .channel := by
      apply hParked.channel_awake <;>
      · revert hPc
        cases s.channel <;> simp [ChannelPc.mayHoldShm, ChannelPc.isWaiting, ChannelPc.isAnswering]
    rw [rank_channel_of_awake hAwake]
    revert hPc
    cases s.channel <;> simp [ChannelPc.mayHoldShm, ChannelPc.rank]

theorem Terminated.channel_awake (hTerminated : s.Terminated) (h : s.killer.pastTerminate = true) :
    ¬ s.SleepsAtShm .channel := by
  obtain ⟨-, hIdle, hDispatcher⟩ := hTerminated.state h
  rintro (hMem | hMem)
  · exact hIdle hMem
  · exact hDispatcher hMem

/-- Nobody who waits for the lock of the channel does so behind a thread that is stuck. -/
theorem rank_ctx (hLocked : s.Locked) (hParked : s.Parked) (hTerminated : s.Terminated)
    (hManned : s.Manned) {t u : ChannelThread} (hWants : s.WantsCtx t) (hOwner : s.ctxLock = some u) :
    s.rank u < s.rank t := by
  obtain rfl := hLocked.ctxOwner u hOwner
  have hHolds := hLocked.ctx.mpr hOwner
  have hChannel : ¬ s.Stranded → s.rank .channel < 4 := by
    intro hNot
    rw [rank]
    split_ifs with hAsleep hAlive
    · decide
    · exact absurd ⟨Bool.of_not_eq_true hAlive, hAsleep⟩ hNot
    · revert hHolds
      cases s.channel <;> simp [ChannelPc.holdsCtx, ChannelPc.rank]
  cases t with
  | channel =>
    rcases hWants with hAt | ⟨hAt, -⟩ <;>
    · rw [hAt] at hHolds
      cases hHolds
  | worker n =>
    have hAt : s.workers n = .ctxLocking := hWants
    rw [rank_worker_of_awake (hParked.worker_awake (by rw [hAt]; rfl) (by rw [hAt]; rfl)), hAt]
    exact hChannel fun hStranded => hManned.channel hStranded ⟨n, hWants⟩
  | killer =>
    have hAt : s.killer = .stopping := hWants
    have hAwake := hTerminated.channel_awake (by rw [hAt]; rfl)
    rw [show s.rank .killer = 4 by rw [rank, hAt]; rfl]
    exact hChannel fun hStranded => hAwake hStranded.2
  | proxy => cases hWants

theorem rank_killer_lt (s : ProxyChannel) : s.rank .killer < 6 := by
  rw [rank]
  cases s.killer <;> simp [KillerPc.rank]

theorem rank_proxy_lt (s : ProxyChannel) : s.rank .proxy < 3 := by
  rw [rank]
  split_ifs <;> decide

theorem rank_lt_of_waitsFor (hLocked : s.Locked) (hParked : s.Parked) (hTerminated : s.Terminated)
    (hAnswered : s.Answered) (hOwned : s.ShmOwned) (hManned : s.Manned) (t u : ChannelThread)
    (h : s.WaitsFor t u) : s.rank u < s.rank t := by
  cases h with
  | table hWants hOwner =>
    rw [rank_wantsTable hParked hWants]
    exact rank_tableOwner hLocked hOwner
  | ctx hWants hOwner => exact rank_ctx hLocked hParked hTerminated hManned hWants hOwner
  | shm hWants hOwner =>
    rw [rank_shmOwner hParked hOwned hOwner]
    exact rank_wantsShm hWants
  | orphaned hDead hAsleep =>
    cases t with
    | channel =>
      rw [rank_channel_of_stranded ⟨hDead, hAsleep⟩]
      exact s.rank_killer_lt
    | worker n =>
      obtain ⟨hNotIdle, hNotDispatcher⟩ := hManned.workers hDead n
      exact (hAsleep.elim hNotIdle hNotDispatcher).elim
    | killer | proxy => rcases hParked.waiting_of_sleepsAtShm hAsleep with h | h <;> cases h
  | served hAlive hAsleep =>
    have hRank : s.rank t = 3 := by
      cases t with
      | channel => rw [rank, if_pos hAsleep, if_pos hAlive]
      | worker n => exact if_pos hAsleep
      | killer | proxy => rcases hParked.waiting_of_sleepsAtShm hAsleep with h | h <;> cases h
    rw [hRank]
    exact s.rank_proxy_lt
  | done _ hOwner hAwaits hAnswering =>
    have hNil : s.shm.dispatcherWakeup = [] := by
      apply hAnswered.waiters_eq_nil <;>
        rcases hAwaits with hState | hState | hState <;> rw [hState] <;> decide
    rw [show s.rank .proxy = 2 from if_neg hOwner]
    cases u with
    | channel =>
      have hAwake : ¬ s.SleepsAtShm .channel := by
        rintro (hMem | hMem)
        · have hWaiting := hParked.idle _ hMem
          revert hWaiting hAnswering
          simp only [idleWaiting, answerWaiting]
          cases s.channel <;> simp [ChannelPc.isWaiting, ChannelPc.isAnswering]
        · rw [hNil] at hMem
          cases hMem
      rw [rank_channel_of_awake hAwake, rank_channelPc_of_waiting (.inr hAnswering)]
      exact Nat.one_lt_two
    | worker n =>
      have hAwake : ¬ s.SleepsAtShm (.worker n) := by
        rintro (hMem | hMem)
        · have hWaiting := hParked.idle _ hMem
          revert hWaiting hAnswering
          simp only [idleWaiting, answerWaiting]
          cases s.workers n <;> simp [WorkerPc.isWaiting, WorkerPc.isAnswering]
        · rw [hNil] at hMem
          cases hMem
      rw [rank_worker_of_awake hAwake, rank_workerPc_of_waiting (.inr hAnswering)]
      exact Nat.one_lt_two
    | killer | proxy => cases hAnswering
  | wakeup hJoining hMem =>
    rw [(hTerminated.stopped (by rw [hJoining]; rfl)).2.1] at hMem
    cases hMem
  | join hJoining hRuns =>
    rw [rank_channel_of_awake (hTerminated.channel_awake (by rw [hJoining]; rfl)),
      show s.rank .killer = 5 by rw [rank, hJoining]; rfl]
    cases s.channel <;> simp [ChannelPc.rank]

/-- No deadlock at a channel in runs whose steps leave nobody stuck at a dead proxy, keep no lock with
a worker, and exchange in turn. -/
theorem not_deadlock_of_attended
    (h : (proxyChannelSystem proxyName).ReachableWhen (fun s e => s.Attended e ∧ s.InTurn e) s) :
    ¬ Deadlock s.WaitsFor := by
  obtain ⟨hLocked, hParked, hTerminated⟩ := orderly_of_reachable h
  have hAnswered : s.Answered := answered_of_reachable (h.mono fun _ _ => And.right)
  have hHeld : s.ShmOwned ∧ s.Manned := by
    refine h.invariant (fun s => s.ShmOwned ∧ s.Manned) ?_ ?_
    · intro s hStarts
      exact ⟨ShmOwned.of_free (by rw [Starts.shmLock hStarts]; rfl),
        Manned.of_alive (Starts.proxyAlive hStarts)⟩
    · rintro s e ⟨hOwned, hManned⟩ hGuard ⟨hAttended, -⟩
      exact ⟨hOwned.effect proxyName e hGuard hAttended, hManned.effect proxyName e hAttended⟩
  exact not_deadlock_of_rank s.rank
    (rank_lt_of_waitsFor hLocked hParked hTerminated hAnswered hHeld.1 hHeld.2)

/-- The channel thread sleeps, the proxy dies and the killer waits for the thread it has stopped. -/
def quietDeath : List ProxyChannelEvent :=
  [.channel .start, .channel .check, .channel .sleep, .proxy .die,
    .killer .unsent, .killer .takeTable, .killer .find, .killer (.terminate 0 0), .killer (.stop 0),
    .killer (.releaseTable true)]

theorem not_deadlock_of_attended_quietDeath :
    ¬ Deadlock ((proxyChannelSystem "p").run (startedProxyChannel .empty .empty) quietDeath).WaitsFor := by
  have hReach : (proxyChannelSystem "p").ReachableWhen (fun s e => s.Attended e ∧ s.InTurn e)
      ((proxyChannelSystem "p").run (startedProxyChannel .empty .empty) quietDeath) := by
    apply TransitionSystem.ReachableWhen.run (.init (starts_startedProxyChannel _ _))
    refine ⟨by decide, ⟨trivial, ?_, nofun⟩, by decide, ⟨trivial, ?_, nofun⟩,
      by decide, ⟨trivial, ?_, nofun⟩, by decide, ⟨⟨?_, ?_⟩, ?_, nofun⟩,
      by decide, ⟨trivial, ?_, nofun⟩, by decide, ⟨trivial, ?_, nofun⟩,
      by decide, ⟨trivial, ?_, nofun⟩, by decide, ⟨trivial, ?_, nofun⟩,
      by decide, ⟨trivial, ?_, nofun⟩, by decide, ⟨trivial, ?_, nofun⟩, trivial⟩
    case refine_4 => exact fun n => ⟨List.not_mem_nil, List.not_mem_nil⟩
    case refine_5 =>
      rintro - ⟨n, hWaits⟩
      cases hWaits
    all_goals exact fun h => h.1.elim
  exact not_deadlock_of_attended hReach

/-- A REST call sleeps with the table lock held while the proxy dies, and the killer, which alone
would wake it, waits for that lock. -/
def deathInRest : List ProxyChannelEvent :=
  [.worker 0 (.start (.rest "a" "x")), .worker 0 (.takeTable (.rest "a" "x")),
    .worker 0 (.find (.rest "a" "x") true), .worker 0 (.idleLock "a" "x" true),
    .proxy .die, .killer .unsent]

theorem deadlock_in_rest :
    ¬ ∀ s, (proxyChannelSystem "p").Reachable s → ¬ Deadlock s.WaitsFor := by
  intro h
  have hReach : (proxyChannelSystem "p").Reachable
      ((proxyChannelSystem "p").run (startedProxyChannel .empty .empty) deathInRest) :=
    .run (.init (starts_startedProxyChannel _ _)) deathInRest (by decide)
  have hSignal : WaitsFor ((proxyChannelSystem "p").run (startedProxyChannel .empty .empty) deathInRest)
      (.worker 0) .killer := .orphaned (by decide) (by decide)
  have hTable : WaitsFor ((proxyChannelSystem "p").run (startedProxyChannel .empty .empty) deathInRest)
      .killer (.worker 0) := .table (.inl (by decide)) (by decide)
  exact h _ hReach ⟨.killer, .tail (.single hTable) hSignal⟩

/-- The answer to an overtaken REST call wakes the wrong thread: the channel thread sleeps on for an
answer that was given, and the proxy waits for it to be marked done. -/
theorem deadlock_of_overtaking :
    ∃ s, (proxyChannelSystem "p").Reachable s ∧ s.proxyAlive = true ∧ Deadlock s.WaitsFor := by
  let events := overtakingRun ++ [.channel (.idleRelock (.request "r" "y" []) true),
    .proxy .lock, .proxy (.react false 0), .proxy .unlock, .worker 1 .answer]
  refine ⟨(proxyChannelSystem "p").run sampleChannel events,
    .run (.init (starts_startedProxyChannel _ _)) events (by decide), by decide,
    .proxy, .tail (.single (.done (t := .channel) ?_ ?_ (.inl ?_) ?_)) (.served ?_ (.inr ?_))⟩
  all_goals decide

end ProxyChannel

end Gonggo
