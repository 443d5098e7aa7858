import Gonggo.ProxyChannel

/-! # Locks and sleepers of a channel

Invariants of every run: who owns the locks inside the dispatcher, who sleeps on which condition,
and what the caller of `proxy_thread_kill` finds once it has terminated and stopped the channel.
-/

namespace Gonggo

namespace ChannelPc

def holdsCtx : ChannelPc → Bool
  | .started | .asleep | .exiting | .finished => false
  | _ => true

/-- From here on the thread may have the lock of the segment, and asks for no lock any more. -/
def mayHoldShm : ChannelPc → Bool
  | .sending _ _ | .dropping | .leaving | .exiting => true
  | _ => false

/-- Where the thread is when it is told to stop, and where it goes from there. -/
def isEnding : ChannelPc → Bool
  | .started | .asleep | .checking | .leaving | .exiting | .finished => true
  | _ => false

end ChannelPc

namespace WorkerPc

def holdsTable : WorkerPc → Bool
  | .ready | .tableLocking _ => false
  | _ => true

end WorkerPc

namespace KillerPc

def holdsTable : KillerPc → Bool
  | .finding | .terminating | .stopping | .tableUnlocking _ => true
  | _ => false

/-- The channel was found and its state set to termination. -/
def pastTerminate : KillerPc → Bool
  | .stopping | .tableUnlocking true | .joining | .removing => true
  | _ => false

def pastStop : KillerPc → Bool
  | .tableUnlocking true | .joining | .removing => true
  | _ => false

end KillerPc

namespace ProxyChannel

variable {proxyName : ProxyName} {s : ProxyChannel}

/-! ## The locks of the dispatcher -/

/-- The table lock and the lock of the channel belong to the threads at places that hold them. -/
structure Locked (s : ProxyChannel) : Prop where
  worker : ∀ n, (s.workers n).holdsTable = true ↔ s.tableLock = some (.worker n)
  killer : s.killer.holdsTable = true ↔ s.tableLock = some .killer
  tableOwner : ∀ t, s.tableLock = some t → (∃ n, t = .worker n) ∨ t = .killer
  ctx : s.channel.holdsCtx = true ↔ s.ctxLock = some .channel
  ctxOwner : ∀ t, s.ctxLock = some t → t = .channel

namespace Locked

variable {s' : ProxyChannel}

theorem of_same (h : s.Locked) (hTable : s'.tableLock = s.tableLock) (hCtx : s'.ctxLock = s.ctxLock)
    (hWorker : ∀ n, (s'.workers n).holdsTable = (s.workers n).holdsTable)
    (hKiller : s'.killer.holdsTable = s.killer.holdsTable)
    (hChannel : s'.channel.holdsCtx = s.channel.holdsCtx) : s'.Locked where
  worker n := by rw [hWorker, hTable, h.worker]
  killer := by rw [hKiller, hTable, h.killer]
  tableOwner := hTable ▸ h.tableOwner
  ctx := by rw [hChannel, hCtx, h.ctx]
  ctxOwner := hCtx ▸ h.ctxOwner

theorem of_channel (h : s.Locked) (hPc : s'.channel.holdsCtx = s.channel.holdsCtx)
    (hTable : s'.tableLock = s.tableLock) (hCtx : s'.ctxLock = s.ctxLock)
    (hWorkers : s'.workers = s.workers) (hKiller : s'.killer = s.killer) : s'.Locked :=
  h.of_same hTable hCtx (fun n => by rw [hWorkers]) (by rw [hKiller]) hPc

theorem of_worker (h : s.Locked) {n : Nat} {pc : WorkerPc}
    (hWorkers : s'.workers = Function.update s.workers n pc)
    (hPc : pc.holdsTable = (s.workers n).holdsTable) (hTable : s'.tableLock = s.tableLock)
    (hCtx : s'.ctxLock = s.ctxLock) (hKiller : s'.killer = s.killer)
    (hChannel : s'.channel = s.channel) : s'.Locked := by
  refine h.of_same hTable hCtx (fun m => ?_) (by rw [hKiller]) (by rw [hChannel])
  rw [hWorkers, Function.update_apply]
  split
  · rename_i hEq
    rw [hPc, hEq]
  · rfl

theorem channelIdleWait (h : s.Locked) (hHolds : s.channel.holdsCtx = true) (outcome : IdleWait)
    (job : ChannelJob) (created : Bool) : (s.channelIdleWait outcome job created).Locked := by
  cases outcome with
  | sleep => exact h.of_channel hHolds.symm rfl rfl rfl rfl
  | refused => cases job <;> exact h.of_channel hHolds.symm rfl rfl rfl rfl
  | proceed => cases job <;> cases created <;> exact h.of_channel hHolds.symm rfl rfl rfl rfl

theorem channelEffect (h : s.Locked) (proxyName : ProxyName) (e : ChannelEvent)
    (hGuard : s.channelGuard e) : (s.channelEffect proxyName e).Locked := by
  have hHolds : ∀ {pc : ChannelPc}, s.channel = pc → ∀ {b : Bool}, b = pc.holdsCtx →
      b = s.channel.holdsCtx := by
    rintro pc rfl b rfl
    rfl
  cases e with
  | start | wake =>
    exact ⟨h.worker, h.killer, h.tableOwner, iff_of_true rfl rfl, fun t ht => (Option.some.inj ht).symm⟩
  | sleep | leave => exact ⟨h.worker, h.killer, h.tableOwner, iff_of_false nofun nofun, nofun⟩
  | check =>
    refine h.of_channel (hHolds hGuard ?_) rfl rfl rfl rfl
    simp only [ProxyChannel.channelEffect]
    split_ifs <;> rfl
  | take rid pending =>
    refine h.of_channel (hHolds hGuard ?_) rfl rfl rfl rfl
    simp only [ProxyChannel.channelEffect]
    split <;> rfl
  | idleLock job created => exact h.channelIdleWait (hHolds hGuard.1 rfl).symm _ job created
  | idleRelock job created => exact h.channelIdleWait (hHolds hGuard.1 rfl).symm _ job created
  | answer rid pending =>
    simp only [ProxyChannel.channelEffect, channelAnswer]
    split_ifs <;> exact h.of_channel (hHolds hGuard.1 rfl) rfl rfl rfl rfl
  | sent rid pending => exact h.of_channel (hHolds hGuard rfl) rfl rfl rfl rfl
  | drop => exact h.of_channel (hHolds hGuard rfl) rfl rfl rfl rfl
  | exit => exact h.of_channel (hHolds hGuard rfl) rfl rfl rfl rfl

theorem of_worker_table (h : s.Locked) {n : Nat} {pc : WorkerPc}
    (hWorkers : s'.workers = Function.update s.workers n pc) {owner : Option ChannelThread}
    (hOwner : s.tableLock = none ∧ pc.holdsTable = true ∧ owner = some (.worker n) ∨
      s.tableLock = some (.worker n) ∧ pc.holdsTable = false ∧ owner = none)
    (hTable : s'.tableLock = owner) (hCtx : s'.ctxLock = s.ctxLock) (hKiller : s'.killer = s.killer)
    (hChannel : s'.channel = s.channel) : s'.Locked where
  worker m := by
    have hOld := h.worker m
    rw [hWorkers, hTable, Function.update_apply]
    rcases hOwner with ⟨hFree, hPc, rfl⟩ | ⟨hOwn, hPc, rfl⟩
    · rw [hFree] at hOld
      split
      · rename_i hEq
        simp [hPc, hEq]
      · rename_i hNe
        simpa [Ne.symm hNe] using hOld
    · rw [hOwn] at hOld
      split
      · simp [hPc]
      · rename_i hNe
        simpa [Ne.symm hNe] using hOld
  killer := by
    have hOld := h.killer
    rw [hKiller, hTable]
    rcases hOwner with ⟨hFree, -, rfl⟩ | ⟨hOwn, -, rfl⟩
    · simpa [hFree] using hOld
    · simpa [hOwn] using hOld
  tableOwner t ht := by
    rw [hTable] at ht
    rcases hOwner with ⟨-, -, rfl⟩ | ⟨-, -, rfl⟩
    · exact .inl ⟨n, (Option.some.inj ht).symm⟩
    · cases ht
  ctx := by rw [hChannel, hCtx, h.ctx]
  ctxOwner := hCtx ▸ h.ctxOwner

theorem workerIdleWait (h : s.Locked) (n : Nat) (hHolds : (s.workers n).holdsTable = true)
    (outcome : IdleWait) (rid : Rid) (text : String) (created : Bool) :
    (s.workerIdleWait n outcome rid text created).Locked := by
  cases outcome with
  | sleep => exact h.of_worker rfl hHolds.symm rfl rfl rfl rfl
  | refused => exact h.of_worker rfl hHolds.symm rfl rfl rfl rfl
  | proceed => cases created <;> exact h.of_worker rfl hHolds.symm rfl rfl rfl rfl

theorem workerEffect (h : s.Locked) (n : Nat) (e : WorkerEvent) (hGuard : s.workerGuard n e) :
    (s.workerEffect n e).Locked := by
  have hHolds : ∀ {pc : WorkerPc}, s.workers n = pc → ∀ {b : Bool}, b = pc.holdsTable →
      b = (s.workers n).holdsTable := by
    rintro pc rfl b rfl
    rfl
  cases e with
  | start job => exact h.of_worker rfl (hHolds hGuard rfl) rfl rfl rfl rfl
  | takeTable job => exact h.of_worker_table rfl (.inl ⟨hGuard.2, rfl, rfl⟩) rfl rfl rfl rfl
  | find job reach =>
    refine h.of_worker rfl (hHolds hGuard.1 ?_) rfl rfl rfl rfl
    cases reach <;> cases job <;> rfl
  | wake pick => exact h.of_worker rfl (hHolds hGuard.1 rfl) rfl rfl rfl rfl
  | idleLock rid text created => exact h.workerIdleWait n (hHolds hGuard.1 rfl).symm _ rid text created
  | idleRelock rid text created => exact h.workerIdleWait n (hHolds hGuard.1 rfl).symm _ rid text created
  | answer => exact h.of_worker rfl (hHolds hGuard.1 rfl) rfl rfl rfl rfl
  | releaseTable =>
    have hOwn := (h.worker n).mp (hHolds hGuard rfl).symm
    exact h.of_worker_table rfl (.inr ⟨hOwn, rfl, rfl⟩) rfl rfl rfl rfl

theorem of_killer_table (h : s.Locked)
    (hOwner : s.tableLock = none ∧ s'.killer.holdsTable = true ∧ s'.tableLock = some .killer ∨
      s.tableLock = some .killer ∧ s'.killer.holdsTable = false ∧ s'.tableLock = none)
    (hWorkers : s'.workers = s.workers) (hCtx : s'.ctxLock = s.ctxLock)
    (hChannel : s'.channel = s.channel) : s'.Locked where
  worker n := by
    have hOld := h.worker n
    rw [hWorkers]
    rcases hOwner with ⟨hFree, -, hTable⟩ | ⟨hOwn, -, hTable⟩
    · simpa [hFree, hTable] using hOld
    · simpa [hOwn, hTable] using hOld
  killer := by
    rcases hOwner with ⟨-, hPc, hTable⟩ | ⟨-, hPc, hTable⟩ <;> simp [hPc, hTable]
  tableOwner t ht := by
    rcases hOwner with ⟨-, -, hTable⟩ | ⟨-, -, hTable⟩
    · rw [hTable] at ht
      exact .inr (Option.some.inj ht).symm
    · rw [hTable] at ht
      cases ht
  ctx := by rw [hChannel, hCtx, h.ctx]
  ctxOwner := hCtx ▸ h.ctxOwner

theorem killerEffect (h : s.Locked) (proxyName : ProxyName) (e : KillerEvent)
    (hGuard : s.killerGuard e) : (s.killerEffect proxyName e).Locked := by
  have hHolds : ∀ {pc : KillerPc}, s.killer = pc → ∀ {b : Bool}, b = pc.holdsTable →
      b = s.killer.holdsTable := by
    rintro pc rfl b rfl
    rfl
  have hKeep : ∀ {s' : ProxyChannel}, s'.killer.holdsTable = s.killer.holdsTable →
      s'.tableLock = s.tableLock → s'.ctxLock = s.ctxLock → s'.workers = s.workers →
      s'.channel = s.channel → s'.Locked := fun hPc hTable hCtx hWorkers hChannel =>
    h.of_same hTable hCtx (fun n => by rw [hWorkers]) hPc (by rw [hChannel])
  cases e with
  | takeTable => exact h.of_killer_table (.inl ⟨hGuard.2, rfl, rfl⟩) rfl rfl rfl
  | releaseTable found =>
    have hOwn := h.killer.mp (hHolds hGuard rfl).symm
    refine h.of_killer_table (.inr ⟨hOwn, ?_, rfl⟩) rfl rfl rfl
    cases found <;> rfl
  | find =>
    refine hKeep (hHolds hGuard ?_) rfl rfl rfl rfl
    simp only [ProxyChannel.killerEffect]
    split_ifs <;> rfl
  | unsent | enter => exact hKeep (hHolds hGuard rfl) rfl rfl rfl rfl
  | terminate | stop | join | remove | drop | leave => exact hKeep (hHolds hGuard.1 rfl) rfl rfl rfl rfl

theorem proxyEffect (h : s.Locked) (e : ProxyEvent) : (s.proxyEffect e).Locked := by
  cases e with
  | react fails pick =>
    simp only [ProxyChannel.proxyEffect, proxyReact]
    split <;> exact ⟨h.worker, h.killer, h.tableOwner, h.ctx, h.ctxOwner⟩
  | lock | unlock | die => exact ⟨h.worker, h.killer, h.tableOwner, h.ctx, h.ctxOwner⟩

theorem effect (h : s.Locked) (proxyName : ProxyName) (e : ProxyChannelEvent) (hGuard : s.guard e) :
    (s.effect proxyName e).Locked := by
  cases e with
  | channel e => exact h.channelEffect proxyName e hGuard
  | worker n e => exact h.workerEffect n e hGuard
  | killer e => exact h.killerEffect proxyName e hGuard
  | proxy e => exact h.proxyEffect e
  | table e => cases e <;> exact ⟨h.worker, h.killer, h.tableOwner, h.ctx, h.ctxOwner⟩
  | spurious t => exact ⟨h.worker, h.killer, h.tableOwner, h.ctx, h.ctxOwner⟩

end Locked

theorem Starts.locked (h : s.Starts) : s.Locked where
  worker n := by rw [h.workers, h.tableLock]; exact iff_of_false nofun nofun
  killer := by rw [h.killer, h.tableLock]; exact iff_of_false nofun nofun
  tableOwner t ht := by rw [h.tableLock] at ht; cases ht
  ctx := by rw [h.channel, h.ctxLock]; exact iff_of_false nofun nofun
  ctxOwner t ht := by rw [h.ctxLock] at ht; cases ht

/-! ## The sleeping threads -/

/-- A thread is parked on a condition at most once, and only at the place that waits for it. -/
structure Parked (s : ProxyChannel) : Prop where
  idle : ∀ t ∈ s.shm.idle, s.idleWaiting t = true
  idleNodup : s.shm.idle.Nodup
  dispatcher : ∀ t ∈ s.shm.dispatcherWakeup, s.answerWaiting t = true
  dispatcherNodup : s.shm.dispatcherWakeup.Nodup
  wakeup : s.wakeup = [] ∨ s.wakeup = [.channel] ∧ s.channel = .asleep

namespace Parked

variable {s' : ProxyChannel}

/-- A condition's waiters after a step of `t`, which was not among them. -/
theorem waiters_step {waiters waiters' : Waiters ChannelThread} {waiting : ChannelThread → Bool}
    (waiting' : ChannelThread → Bool) {t : ChannelThread} (hWaiting : ∀ u ∈ waiters, waiting u = true) (hNodup : waiters.Nodup)
    (hNot : t ∉ waiters) (hOthers : ∀ u, u ≠ t → waiting' u = waiting u)
    (h : waiters' = waiters ∨ waiters' = waiters ++ [t] ∧ waiting' t = true) :
    (∀ u ∈ waiters', waiting' u = true) ∧ waiters'.Nodup := by
  have hOld : ∀ u ∈ waiters, waiting' u = true := fun u hu => by
    rw [hOthers u (ne_of_mem_of_not_mem hu hNot), hWaiting u hu]
  rcases h with rfl | ⟨rfl, hSelf⟩
  · exact ⟨hOld, hNodup⟩
  · refine ⟨fun u hu => ?_, hNodup.append (List.nodup_singleton t) (by simpa using hNot)⟩
    rcases List.mem_append.mp hu with hu | hu
    · exact hOld u hu
    · rw [List.mem_singleton.mp hu, hSelf]

theorem of_channel (h : s.Parked) (hIdleNot : ChannelThread.channel ∉ s.shm.idle)
    (hDispatcherNot : ChannelThread.channel ∉ s.shm.dispatcherWakeup)
    (hWorkers : s'.workers = s.workers)
    (hIdle : s'.shm.idle = s.shm.idle ∨
      s'.shm.idle = s.shm.idle ++ [.channel] ∧ s'.channel.isWaiting = true)
    (hDispatcher : s'.shm.dispatcherWakeup = s.shm.dispatcherWakeup ∨
      s'.shm.dispatcherWakeup = s.shm.dispatcherWakeup ++ [.channel] ∧ s'.channel.isAnswering = true)
    (hWakeup : s'.wakeup = [] ∨ s'.wakeup = [.channel] ∧ s'.channel = .asleep) : s'.Parked := by
  obtain ⟨hIdle, hIdleNodup⟩ := waiters_step s'.idleWaiting h.idle h.idleNodup hIdleNot
    (by rintro (_ | n | _ | _) hNe <;> simp_all [idleWaiting]) hIdle
  obtain ⟨hDispatcher, hDispatcherNodup⟩ := waiters_step s'.answerWaiting h.dispatcher
    h.dispatcherNodup hDispatcherNot
    (by rintro (_ | n | _ | _) hNe <;> simp_all [answerWaiting]) hDispatcher
  exact ⟨hIdle, hIdleNodup, hDispatcher, hDispatcherNodup, hWakeup⟩

theorem of_worker (h : s.Parked) {n : Nat} {pc : WorkerPc}
    (hIdleNot : ChannelThread.worker n ∉ s.shm.idle)
    (hDispatcherNot : ChannelThread.worker n ∉ s.shm.dispatcherWakeup)
    (hWorkers : s'.workers = Function.update s.workers n pc) (hChannel : s'.channel = s.channel)
    (hIdle : s'.shm.idle = s.shm.idle ∨
      s'.shm.idle = s.shm.idle ++ [.worker n] ∧ pc.isWaiting = true)
    (hDispatcher : s'.shm.dispatcherWakeup = s.shm.dispatcherWakeup ∨
      s'.shm.dispatcherWakeup = s.shm.dispatcherWakeup ++ [.worker n] ∧ pc.isAnswering = true)
    (hWakeup : s'.wakeup = s.wakeup ∨ s'.wakeup = []) : s'.Parked := by
  obtain ⟨hIdle, hIdleNodup⟩ := waiters_step s'.idleWaiting h.idle h.idleNodup hIdleNot
    (by rintro (_ | m | _ | _) hNe <;> simp_all [idleWaiting])
    (hIdle.imp_right fun h => ⟨h.1, by simpa [idleWaiting, hWorkers] using h.2⟩)
  obtain ⟨hDispatcher, hDispatcherNodup⟩ := waiters_step s'.answerWaiting h.dispatcher
    h.dispatcherNodup hDispatcherNot
    (by rintro (_ | m | _ | _) hNe <;> simp_all [answerWaiting])
    (hDispatcher.imp_right fun h => ⟨h.1, by simpa [answerWaiting, hWorkers] using h.2⟩)
  refine ⟨hIdle, hIdleNodup, hDispatcher, hDispatcherNodup, ?_⟩
  rcases hWakeup with hEq | hNil
  · rw [hEq, hChannel]
    exact h.wakeup
  · exact .inl hNil

theorem of_sublist (h : s.Parked) (hChannel : s'.channel = s.channel) (hWorkers : s'.workers = s.workers)
    (hIdle : s'.shm.idle.Sublist s.shm.idle)
    (hDispatcher : s'.shm.dispatcherWakeup.Sublist s.shm.dispatcherWakeup)
    (hWakeup : s'.wakeup.Sublist s.wakeup) : s'.Parked := by
  have hIdleWaiting : s'.idleWaiting = s.idleWaiting := by
    funext t
    cases t <;> simp [idleWaiting, hChannel, hWorkers]
  have hAnswerWaiting : s'.answerWaiting = s.answerWaiting := by
    funext t
    cases t <;> simp [answerWaiting, hChannel, hWorkers]
  refine ⟨fun t ht => ?_, h.idleNodup.sublist hIdle, fun t ht => ?_, h.dispatcherNodup.sublist hDispatcher, ?_⟩
  · rw [hIdleWaiting, h.idle t (hIdle.subset ht)]
  · rw [hAnswerWaiting, h.dispatcher t (hDispatcher.subset ht)]
  · rw [hChannel]
    rcases h.wakeup with hNil | ⟨hOne, hAsleep⟩
    · rw [hNil] at hWakeup
      exact .inl (List.sublist_nil.mp hWakeup)
    · rw [hOne] at hWakeup
      exact (List.sublist_singleton.mp hWakeup).imp_right (⟨·, hAsleep⟩)

theorem channel_not_idle (h : s.Parked) (hPc : s.channel.isWaiting = false) :
    ChannelThread.channel ∉ s.shm.idle :=
  fun hMem => Bool.false_ne_true (hPc.symm.trans (h.idle _ hMem))

theorem channel_not_dispatcher (h : s.Parked) (hPc : s.channel.isAnswering = false) :
    ChannelThread.channel ∉ s.shm.dispatcherWakeup :=
  fun hMem => Bool.false_ne_true (hPc.symm.trans (h.dispatcher _ hMem))

theorem worker_not_idle (h : s.Parked) {n : Nat} (hPc : (s.workers n).isWaiting = false) :
    ChannelThread.worker n ∉ s.shm.idle :=
  fun hMem => Bool.false_ne_true (hPc.symm.trans (h.idle _ hMem))

theorem worker_not_dispatcher (h : s.Parked) {n : Nat} (hPc : (s.workers n).isAnswering = false) :
    ChannelThread.worker n ∉ s.shm.dispatcherWakeup :=
  fun hMem => Bool.false_ne_true (hPc.symm.trans (h.dispatcher _ hMem))

theorem wakeup_eq_nil (h : s.Parked) (hPc : s.channel ≠ .asleep) : s.wakeup = [] :=
  h.wakeup.resolve_right fun hAsleep => hPc hAsleep.2

theorem channelIdleWait (h : s.Parked) (hIdleNot : ChannelThread.channel ∉ s.shm.idle)
    (hDispatcherNot : ChannelThread.channel ∉ s.shm.dispatcherWakeup) (hWakeup : s.wakeup = [])
    (outcome : IdleWait) (job : ChannelJob) (created : Bool) :
    (s.channelIdleWait outcome job created).Parked := by
  cases outcome with
  | sleep => exact h.of_channel hIdleNot hDispatcherNot rfl (.inr ⟨rfl, rfl⟩) (.inl rfl) (.inl hWakeup)
  | refused => exact h.of_channel hIdleNot hDispatcherNot rfl (.inl rfl) (.inl rfl) (.inl hWakeup)
  | proceed =>
    cases job with
    | stopRequest => exact h.of_channel hIdleNot hDispatcherNot rfl (.inl rfl) (.inl rfl) (.inl hWakeup)
    | request rid text pending =>
      cases created with
      | true =>
        exact h.of_channel hIdleNot hDispatcherNot rfl (.inl rfl) (.inr ⟨rfl, rfl⟩) (.inl hWakeup)
      | false => exact h.of_channel hIdleNot hDispatcherNot rfl (.inl rfl) (.inl rfl) (.inl hWakeup)

theorem channelEffect (h : s.Parked) (proxyName : ProxyName) (e : ChannelEvent)
    (hGuard : s.channelGuard e) : (s.channelEffect proxyName e).Parked := by
  have hQuiet : ∀ {s' : ProxyChannel}, s.channel.isWaiting = false → s.channel.isAnswering = false →
      s'.workers = s.workers → s'.shm.idle = s.shm.idle →
      s'.shm.dispatcherWakeup = s.shm.dispatcherWakeup →
      (s'.wakeup = [] ∨ s'.wakeup = [.channel] ∧ s'.channel = .asleep) → s'.Parked :=
    fun hWaiting hAnswering hWorkers hIdle hDispatcher hWakeup =>
      h.of_channel (h.channel_not_idle hWaiting) (h.channel_not_dispatcher hAnswering) hWorkers
        (.inl hIdle) (.inl hDispatcher) hWakeup
  have hPc : ∀ {pc : ChannelPc}, s.channel = pc → pc ≠ .asleep → s.wakeup = [] :=
    fun hEq hNe => h.wakeup_eq_nil (hEq ▸ hNe)
  cases e with
  | start =>
    obtain ⟨hAt, -⟩ := hGuard
    exact hQuiet (by rw [hAt]; rfl) (by rw [hAt]; rfl) rfl rfl rfl (.inl (hPc hAt nofun))
  | check | take | sent | drop | leave | exit =>
    exact hQuiet (by rw [show s.channel = _ from hGuard]; rfl)
      (by rw [show s.channel = _ from hGuard]; rfl) rfl rfl rfl (.inl (hPc hGuard nofun))
  | sleep =>
    refine hQuiet (by rw [show s.channel = _ from hGuard]; rfl)
      (by rw [show s.channel = _ from hGuard]; rfl) rfl rfl rfl (.inr ⟨?_, rfl⟩)
    rw [ProxyChannel.channelEffect, hPc hGuard nofun]
    rfl
  | wake =>
    obtain ⟨hAt, hNot, -⟩ := hGuard
    refine hQuiet (by rw [hAt]; rfl) (by rw [hAt]; rfl) rfl rfl rfl (.inl ?_)
    refine h.wakeup.resolve_right fun hOne => hNot ?_
    rw [hOne.1]
    exact List.mem_singleton_self _
  | idleLock job created =>
    obtain ⟨hAt, -⟩ := hGuard
    exact h.channelIdleWait (h.channel_not_idle (by rw [hAt]; rfl))
      (h.channel_not_dispatcher (by rw [hAt]; rfl)) (hPc hAt nofun) _ job created
  | idleRelock job created =>
    obtain ⟨hAt, hNot, -⟩ := hGuard
    exact h.channelIdleWait hNot (h.channel_not_dispatcher (by rw [hAt]; rfl)) (hPc hAt nofun) _ job
      created
  | answer rid pending =>
    obtain ⟨hAt, hNot, -⟩ := hGuard
    have hIdleNot := h.channel_not_idle (by rw [hAt]; rfl)
    simp only [ProxyChannel.channelEffect, channelAnswer]
    split_ifs <;> exact h.of_channel hIdleNot hNot rfl (.inl rfl) (.inl rfl) (.inl (hPc hAt nofun))

theorem workerIdleWait (h : s.Parked) {n : Nat} (hIdleNot : ChannelThread.worker n ∉ s.shm.idle)
    (hDispatcherNot : ChannelThread.worker n ∉ s.shm.dispatcherWakeup) (outcome : IdleWait) (rid : Rid)
    (text : String) (created : Bool) : (s.workerIdleWait n outcome rid text created).Parked := by
  cases outcome with
  | sleep =>
    exact h.of_worker hIdleNot hDispatcherNot rfl rfl (.inr ⟨rfl, rfl⟩) (.inl rfl) (.inl rfl)
  | refused => exact h.of_worker hIdleNot hDispatcherNot rfl rfl (.inl rfl) (.inl rfl) (.inl rfl)
  | proceed =>
    cases created with
    | true =>
      exact h.of_worker hIdleNot hDispatcherNot rfl rfl (.inl rfl) (.inr ⟨rfl, rfl⟩) (.inl rfl)
    | false => exact h.of_worker hIdleNot hDispatcherNot rfl rfl (.inl rfl) (.inl rfl) (.inl rfl)

theorem signal_wakeup (h : s.Parked) (pick : Nat) : s.wakeup.signal pick = [] := by
  rcases h.wakeup with hNil | ⟨hOne, -⟩
  · rw [hNil]
    rfl
  · rw [hOne, Waiters.signal_singleton]

theorem workerEffect (h : s.Parked) (n : Nat) (e : WorkerEvent) (hGuard : s.workerGuard n e) :
    (s.workerEffect n e).Parked := by
  have hNot : ∀ {pc : WorkerPc}, s.workers n = pc → pc.isWaiting = false → pc.isAnswering = false →
      ChannelThread.worker n ∉ s.shm.idle ∧ ChannelThread.worker n ∉ s.shm.dispatcherWakeup := by
    rintro pc rfl hWaiting hAnswering
    exact ⟨h.worker_not_idle hWaiting, h.worker_not_dispatcher hAnswering⟩
  cases e with
  | start | releaseTable =>
    obtain ⟨hIdleNot, hDispatcherNot⟩ := hNot hGuard rfl rfl
    exact h.of_worker hIdleNot hDispatcherNot rfl rfl (.inl rfl) (.inl rfl) (.inl rfl)
  | takeTable | find =>
    obtain ⟨hIdleNot, hDispatcherNot⟩ := hNot hGuard.1 rfl rfl
    exact h.of_worker hIdleNot hDispatcherNot rfl rfl (.inl rfl) (.inl rfl) (.inl rfl)
  | wake pick =>
    obtain ⟨hIdleNot, hDispatcherNot⟩ := hNot hGuard.1 rfl rfl
    exact h.of_worker hIdleNot hDispatcherNot rfl rfl (.inl rfl) (.inl rfl)
      (.inr (h.signal_wakeup pick))
  | idleLock rid text created =>
    obtain ⟨hIdleNot, hDispatcherNot⟩ := hNot hGuard.1 rfl rfl
    exact h.workerIdleWait hIdleNot hDispatcherNot _ rid text created
  | idleRelock rid text created =>
    obtain ⟨hAt, hIdleNot, -⟩ := hGuard
    exact h.workerIdleWait hIdleNot (h.worker_not_dispatcher (by rw [hAt]; rfl)) _ rid text created
  | answer =>
    obtain ⟨hAt, hDispatcherNot, -⟩ := hGuard
    have hIdleNot := h.worker_not_idle (n := n) (by rw [hAt]; rfl)
    simp only [ProxyChannel.workerEffect]
    split_ifs <;> exact h.of_worker hIdleNot hDispatcherNot rfl rfl (.inl rfl) (.inl rfl) (.inl rfl)

theorem killerEffect (h : s.Parked) (proxyName : ProxyName) (e : KillerEvent) :
    (s.killerEffect proxyName e).Parked := by
  cases e with
  | terminate pickIdle pickDispatcher =>
    exact h.of_sublist rfl rfl (List.eraseIdx_sublist ..) (List.eraseIdx_sublist ..) (.refl _)
  | stop pick => exact h.of_sublist rfl rfl (.refl _) (.refl _) (List.eraseIdx_sublist ..)
  | unsent | enter | takeTable | find | releaseTable | join | remove | drop | leave =>
    exact h.of_sublist rfl rfl (.refl _) (.refl _) (.refl _)

theorem proxyEffect (h : s.Parked) (e : ProxyEvent) : (s.proxyEffect e).Parked := by
  cases e with
  | react fails pick =>
    simp only [ProxyChannel.proxyEffect, proxyReact]
    split
    · exact h
    · exact h.of_sublist rfl rfl (List.eraseIdx_sublist ..) (.refl _) (.refl _)
    · exact h.of_sublist rfl rfl (.refl _) (List.eraseIdx_sublist ..) (.refl _)
  | lock | unlock | die => exact h.of_sublist rfl rfl (.refl _) (.refl _) (.refl _)

theorem effect (h : s.Parked) (proxyName : ProxyName) (e : ProxyChannelEvent) (hGuard : s.guard e) :
    (s.effect proxyName e).Parked := by
  cases e with
  | channel e => exact h.channelEffect proxyName e hGuard
  | worker n e => exact h.workerEffect n e hGuard
  | killer e => exact h.killerEffect proxyName e
  | proxy e => exact h.proxyEffect e
  | table e => cases e <;> exact h.of_sublist rfl rfl (.refl _) (.refl _) (.refl _)
  | spurious t =>
    exact h.of_sublist rfl rfl List.erase_sublist List.erase_sublist List.erase_sublist

end Parked

theorem Starts.parked (h : s.Starts) : s.Parked := by
  refine ⟨?_, ?_, ?_, ?_, .inl h.wakeup⟩
  · rw [h.idle]
    exact fun t ht => by cases ht
  · rw [h.idle]
    exact List.nodup_nil
  · rw [h.dispatcherWakeup]
    exact fun t ht => by cases ht
  · rw [h.dispatcherWakeup]
    exact List.nodup_nil

/-! ## Terminated channels -/

/-- Once the channel was terminated no thread sleeps on the conditions of its segment any more, and
once it was stopped the channel thread only goes on to its end. -/
structure Terminated (s : ProxyChannel) : Prop where
  state : s.killer.pastTerminate = true → s.shm.state = .channelTermination ∧
    ChannelThread.channel ∉ s.shm.idle ∧ ChannelThread.channel ∉ s.shm.dispatcherWakeup
  stopped : s.killer.pastStop = true → s.stop = true ∧ s.wakeup = [] ∧ s.channel.isEnding = true

theorem idleWait_of_termination {shm : ProxyChannelShm} (h : shm.state = .channelTermination) :
    shm.idleWaitLocked = .refused ∧ shm.idleWaitWoken = .refused := by
  simp [ProxyChannelShm.idleWaitLocked, ProxyChannelShm.idleWaitWoken, h]

namespace Terminated

variable {s' : ProxyChannel}

theorem of_same (h : s.Terminated) (hKiller : s'.killer = s.killer)
    (hState : s.killer.pastTerminate = true → s'.shm.state = s.shm.state ∧
      s'.shm.idle = s.shm.idle ∧ s'.shm.dispatcherWakeup = s.shm.dispatcherWakeup)
    (hStopped : s.killer.pastStop = true → s'.stop = true ∧ s'.wakeup = [] ∧
      s'.channel.isEnding = true) : s'.Terminated where
  state hPast := by
    rw [hKiller] at hPast
    obtain ⟨hState, hIdle, hDispatcher⟩ := hState hPast
    rw [hState, hIdle, hDispatcher]
    exact h.state hPast
  stopped hPast := hStopped (hKiller ▸ hPast)

theorem channelIdleWait (h : s.Terminated) {outcome : IdleWait}
    (hOutcome : s.shm.state = .channelTermination → outcome = .refused) (job : ChannelJob)
    (created : Bool) (hStopped : s.killer.pastStop = true → False) :
    (s.channelIdleWait outcome job created).Terminated := by
  cases outcome with
  | refused =>
    exact h.of_same rfl (fun _ => ⟨rfl, rfl, rfl⟩) fun hPast => (hStopped hPast).elim
  | sleep =>
    exact h.of_same rfl (fun hPast => nomatch hOutcome (h.state hPast).1) fun hPast =>
      (hStopped hPast).elim
  | proceed =>
    cases job <;> cases created <;>
      exact h.of_same rfl (fun hPast => nomatch hOutcome (h.state hPast).1) fun hPast =>
        (hStopped hPast).elim

theorem channelEffect (h : s.Terminated) (proxyName : ProxyName) (e : ChannelEvent)
    (hGuard : s.channelGuard e) : (s.channelEffect proxyName e).Terminated := by
  have hEnding : ∀ {pc : ChannelPc}, s.channel = pc → pc.isEnding = false →
      s.killer.pastStop = true → False := by
    rintro pc rfl hNot hPast
    rw [(h.stopped hPast).2.2] at hNot
    cases hNot
  cases e with
  | start | wake | leave | exit =>
    exact h.of_same rfl (fun _ => ⟨rfl, rfl, rfl⟩) fun hPast =>
      ⟨(h.stopped hPast).1, (h.stopped hPast).2.1, rfl⟩
  | check =>
    refine h.of_same rfl (fun _ => ⟨rfl, rfl, rfl⟩) fun hPast => ?_
    obtain ⟨hStop, hWakeup, -⟩ := h.stopped hPast
    refine ⟨hStop, hWakeup, ?_⟩
    simp only [ProxyChannel.channelEffect, hStop, if_true]
    rfl
  | take | sleep | sent | drop =>
    exact h.of_same rfl (fun _ => ⟨rfl, rfl, rfl⟩) fun hPast => (hEnding hGuard rfl hPast).elim
  | idleLock job created =>
    exact h.channelIdleWait (fun hState => (idleWait_of_termination hState).1) job created
      (hEnding hGuard.1 rfl)
  | idleRelock job created =>
    exact h.channelIdleWait (fun hState => (idleWait_of_termination hState).2) job created
      (hEnding hGuard.1 rfl)
  | answer rid pending =>
    have hState : s.killer.pastTerminate = true →
        s.shm.lock.ownerDead = true ∨ s.shm.state = .channelTermination :=
      fun hPast => .inr (h.state hPast).1
    have hStopped : s.killer.pastStop = true → False := hEnding hGuard.1 rfl
    simp only [ProxyChannel.channelEffect, channelAnswer]
    split_ifs with hEnded
    · exact h.of_same rfl (fun _ => ⟨rfl, rfl, rfl⟩) fun hPast => (hStopped hPast).elim
    · exact h.of_same rfl (fun hPast => absurd (hState hPast) hEnded) fun hPast =>
        (hStopped hPast).elim
    · exact h.of_same rfl (fun _ => ⟨rfl, rfl, rfl⟩) fun hPast => (hStopped hPast).elim

theorem workerIdleWait (h : s.Terminated) {n : Nat} {outcome : IdleWait}
    (hOutcome : s.shm.state = .channelTermination → outcome = .refused) (rid : Rid) (text : String)
    (created : Bool) : (s.workerIdleWait n outcome rid text created).Terminated := by
  cases outcome with
  | refused => exact h.of_same rfl (fun _ => ⟨rfl, rfl, rfl⟩) h.stopped
  | sleep => exact h.of_same rfl (fun hPast => nomatch hOutcome (h.state hPast).1) h.stopped
  | proceed =>
    cases created <;> exact h.of_same rfl (fun hPast => nomatch hOutcome (h.state hPast).1) h.stopped

theorem workerEffect (h : s.Terminated) (hParked : s.Parked) (n : Nat) (e : WorkerEvent) :
    (s.workerEffect n e).Terminated := by
  cases e with
  | wake pick =>
    exact h.of_same rfl (fun _ => ⟨rfl, rfl, rfl⟩) fun hPast =>
      ⟨(h.stopped hPast).1, hParked.signal_wakeup pick, (h.stopped hPast).2.2⟩
  | idleLock rid text created =>
    exact h.workerIdleWait (fun hState => (idleWait_of_termination hState).1) rid text created
  | idleRelock rid text created =>
    exact h.workerIdleWait (fun hState => (idleWait_of_termination hState).2) rid text created
  | answer =>
    refine h.of_same rfl (fun hPast => ?_) h.stopped
    have hRespond : ¬ (¬ s.shm.lock.ownerDead = true ∧ s.shm.state = .channelRestRespond) := by
      rw [(h.state hPast).1]
      simp
    simp only [ProxyChannel.workerEffect, if_neg hRespond]
    exact ⟨rfl, rfl, rfl⟩
  | start | takeTable | find | releaseTable => exact h.of_same rfl (fun _ => ⟨rfl, rfl, rfl⟩) h.stopped

/-- With the table lock in its hands the killer finds no worker asleep at the channel, so its signals
reach the channel thread. -/
theorem signal_of_killer {waiters : Waiters ChannelThread} (hNodup : waiters.Nodup)
    (hOnly : ∀ t ∈ waiters, t = .channel) (pick : Nat) : ChannelThread.channel ∉ waiters.signal pick := by
  cases waiters with
  | nil => exact List.not_mem_nil
  | cons t rest =>
    obtain rfl := hOnly t List.mem_cons_self
    have hRest : rest = [] := by
      rw [List.eq_nil_iff_forall_not_mem]
      intro u hu
      obtain rfl := hOnly u (List.mem_cons_of_mem _ hu)
      exact (List.nodup_cons.mp hNodup).1 hu
    rw [hRest, Waiters.signal_singleton]
    exact List.not_mem_nil

theorem only_channel_parked (hLocked : s.Locked) (hParked : s.Parked) (hHolds : s.killer.holdsTable = true) :
    (∀ t ∈ s.shm.idle, t = .channel) ∧ ∀ t ∈ s.shm.dispatcherWakeup, t = .channel := by
  have hWorker : ∀ n, (s.workers n).holdsTable = true → False := by
    intro n hn
    rw [hLocked.worker, hLocked.killer.mp hHolds] at hn
    cases hn
  constructor
  · intro t ht
    have hWaiting := hParked.idle t ht
    cases t with
    | channel => rfl
    | worker n =>
      refine (hWorker n ?_).elim
      revert hWaiting
      rw [idleWaiting]
      cases s.workers n <;> simp [WorkerPc.isWaiting, WorkerPc.holdsTable]
    | killer => cases hWaiting
    | proxy => cases hWaiting
  · intro t ht
    have hWaiting := hParked.dispatcher t ht
    cases t with
    | channel => rfl
    | worker n =>
      refine (hWorker n ?_).elim
      revert hWaiting
      rw [answerWaiting]
      cases s.workers n <;> simp [WorkerPc.isAnswering, WorkerPc.holdsTable]
    | killer => cases hWaiting
    | proxy => cases hWaiting

theorem killerEffect (h : s.Terminated) (hLocked : s.Locked) (hParked : s.Parked)
    (proxyName : ProxyName) (e : KillerEvent) (hGuard : s.killerGuard e) :
    (s.killerEffect proxyName e).Terminated := by
  cases e with
  | unsent | enter | takeTable | remove | drop | leave => exact ⟨nofun, nofun⟩
  | find =>
    simp only [ProxyChannel.killerEffect]
    split_ifs <;> exact ⟨nofun, nofun⟩
  | terminate pickIdle pickDispatcher =>
    have hOnly := only_channel_parked hLocked hParked (by rw [hGuard.1]; rfl)
    exact ⟨fun _ => ⟨rfl, signal_of_killer hParked.idleNodup hOnly.1 _,
      signal_of_killer hParked.dispatcherNodup hOnly.2 _⟩, nofun⟩
  | stop pick =>
    obtain ⟨hAt, hFree⟩ := hGuard
    have hEnding : s.channel.isEnding = true := by
      have hNot : ¬ s.channel.holdsCtx = true := by
        rw [hLocked.ctx, hFree]
        exact nofun
      revert hNot
      cases s.channel <;> simp [ChannelPc.holdsCtx, ChannelPc.isEnding]
    exact ⟨fun _ => h.state (by rw [hAt]; rfl), fun _ => ⟨rfl, hParked.signal_wakeup pick, hEnding⟩⟩
  | releaseTable found =>
    cases found with
    | false => exact ⟨nofun, nofun⟩
    | true =>
      have hAt : s.killer = .tableUnlocking true := hGuard
      exact ⟨fun _ => h.state (by rw [hAt]; rfl), fun _ => h.stopped (by rw [hAt]; rfl)⟩
  | join =>
    exact ⟨fun _ => h.state (by rw [hGuard.1]; rfl), fun _ => h.stopped (by rw [hGuard.1]; rfl)⟩

theorem proxyEffect (h : s.Terminated) (e : ProxyEvent) (hGuard : s.proxyGuard e) :
    (s.proxyEffect e).Terminated := by
  cases e with
  | react fails pick =>
    obtain ⟨-, hReacts⟩ := hGuard
    have hPast : s.killer.pastTerminate = true → False := by
      intro hPast
      rw [(h.state hPast).1] at hReacts
      cases hReacts
    simp only [ProxyChannel.proxyEffect, proxyReact]
    split
    · exact h
    · exact h.of_same rfl (fun hp => (hPast hp).elim) h.stopped
    · exact h.of_same rfl (fun hp => (hPast hp).elim) h.stopped
  | lock | unlock | die => exact h.of_same rfl (fun _ => ⟨rfl, rfl, rfl⟩) h.stopped

theorem effect (h : s.Terminated) (hLocked : s.Locked) (hParked : s.Parked) (proxyName : ProxyName)
    (e : ProxyChannelEvent) (hGuard : s.guard e) : (s.effect proxyName e).Terminated := by
  cases e with
  | channel e => exact h.channelEffect proxyName e hGuard
  | worker n e => exact h.workerEffect hParked n e
  | killer e => exact h.killerEffect hLocked hParked proxyName e hGuard
  | proxy e => exact h.proxyEffect e hGuard
  | table e => cases e <;> exact h.of_same rfl (fun _ => ⟨rfl, rfl, rfl⟩) h.stopped
  | spurious t =>
    refine ⟨fun hPast => ?_, fun hPast => ?_⟩
    · obtain ⟨hState, hIdle, hDispatcher⟩ := h.state hPast
      exact ⟨hState, fun hMem => hIdle (List.mem_of_mem_erase hMem),
        fun hMem => hDispatcher (List.mem_of_mem_erase hMem)⟩
    · obtain ⟨hStop, hWakeup, hEnding⟩ := h.stopped hPast
      refine ⟨hStop, ?_, hEnding⟩
      show s.wakeup.erase t = []
      rw [hWakeup]
      rfl

end Terminated

theorem Starts.terminated (h : s.Starts) : s.Terminated := by
  constructor <;>
  · rw [h.killer]
    exact nofun

theorem orderly_of_reachable {cond : ProxyChannel → ProxyChannelEvent → Prop}
    (h : (proxyChannelSystem proxyName).ReachableWhen cond s) : s.Locked ∧ s.Parked ∧ s.Terminated := by
  refine h.invariant (fun s => s.Locked ∧ s.Parked ∧ s.Terminated) ?_ ?_
  · exact fun s hStarts => ⟨Starts.locked hStarts, Starts.parked hStarts, Starts.terminated hStarts⟩
  · rintro s e ⟨hLocked, hParked, hTerminated⟩ hGuard -
    exact ⟨hLocked.effect proxyName e hGuard, hParked.effect proxyName e hGuard,
      hTerminated.effect hLocked hParked proxyName e hGuard⟩

end ProxyChannel

end Gonggo
