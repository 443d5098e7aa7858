import Gonggo.ClientProxynameTable
import Gonggo.Library.TransitionSystem
import Gonggo.Library.WaitGraph

/-! # The channel of one proxy

proxychannel.c with the callers that meet it at a channel: client_service_route,
client_service_drop_conn, rest_handler and proxy_thread_kill. A step runs a thread from one blocking
call, or one access to a table with a lock of its own, to the next; what it does between belongs to
the lock it holds.
-/

namespace Gonggo

inductive ProxyChannelState
  | channelInit
  | channelIdle
  | channelRequest
  | channelAcknowledged
  | channelFails
  | channelDone
  | channelStopRequest
  | channelRest
  | channelRestRespond
  | channelTermination
  deriving DecidableEq, Repr

/-- The threads at a channel: the channel thread, the web server's workers by number, the caller of
`proxy_thread_kill`, and the proxy process. -/
inductive ChannelThread
  | channel
  | worker (n : Nat)
  | killer
  | proxy
  deriving DecidableEq, Repr

/-- The segment shared with the proxy, with the threads that sleep on two of its conditions. -/
structure ProxyChannelShm where
  lock : RobustMutex ChannelThread
  idle : Waiters ChannelThread
  dispatcherWakeup : Waiters ChannelThread
  state : ProxyChannelState
  rid : Rid
  payloadBuffLength : Nat

/-- How `proxy_channel_idle_wait` goes on once it has the lock: it returns true, it returns false
with the lock still held, or it sleeps on `idle`. -/
inductive IdleWait
  | proceed
  | refused
  | sleep
  deriving DecidableEq, Repr

namespace ProxyChannelShm

def idleWaitLocked (shm : ProxyChannelShm) : IdleWait :=
  if shm.lock.ownerDead then .refused
  else if shm.state = .channelTermination then .refused
  else if shm.state ≠ .channelIdle then .sleep
  else .proceed

/-- After the sleep the state is compared with the termination state only. -/
def idleWaitWoken (shm : ProxyChannelShm) : IdleWait :=
  if shm.lock.ownerDead then .refused
  else if shm.state = .channelTermination then .refused
  else .proceed

def lockedBy (shm : ProxyChannelShm) (t : ChannelThread) : ProxyChannelShm :=
  { shm with lock := .lockedBy t }

def unlocked (shm : ProxyChannelShm) : ProxyChannelShm := { shm with lock := .free }

def sleepOnIdle (shm : ProxyChannelShm) (t : ChannelThread) : ProxyChannelShm :=
  { shm with lock := .free, idle := shm.idle ++ [t] }

/-- Write a request and sleep until the proxy answers it. -/
def post (shm : ProxyChannelShm) (t : ChannelThread) (state : ProxyChannelState) (rid : Rid)
    (text : String) : ProxyChannelShm :=
  { shm with
    lock := .free
    dispatcherWakeup := shm.dispatcherWakeup ++ [t]
    state := state
    rid := rid
    payloadBuffLength := text.utf8ByteSize + 1 }

/-- The segment of the payload could not be made. -/
def postFailed (shm : ProxyChannelShm) : ProxyChannelShm :=
  { shm with lock := .free, payloadBuffLength := 0 }

def withState (shm : ProxyChannelShm) (state : ProxyChannelState) : ProxyChannelShm :=
  { shm with state := state }

end ProxyChannelShm

/-- What the channel thread waits for the idle channel with. -/
inductive ChannelJob
  | stopRequest
  | request (rid : Rid) (text : String) (pending : List Rid)
  deriving DecidableEq, Repr

inductive ChannelPc
  | started
  | checking
  | exchanging (pending : List Rid)
  | locking (job : ChannelJob)
  | waiting (job : ChannelJob)
  | answering (rid : Rid) (pending : List Rid)
  | sending (rid : Rid) (pending : List Rid)
  | dropping
  | asleep
  | leaving
  | exiting
  | finished
  deriving DecidableEq, Repr

inductive WorkerJob
  | route
  | dropConn
  | rest (rid : Rid) (text : String)
  deriving DecidableEq, Repr

inductive WorkerPc
  | ready
  | tableLocking (job : WorkerJob)
  | finding (job : WorkerJob)
  | ctxLocking
  | locking (rid : Rid) (text : String)
  | waiting (rid : Rid) (text : String)
  | answering
  | tableUnlocking
  deriving DecidableEq, Repr

inductive KillerPc
  | ready
  | tableLocking
  | finding
  | terminating
  | stopping
  | tableUnlocking (found : Bool)
  | joining
  | removing
  | killed
  deriving DecidableEq, Repr

/-- The state of a channel. `handling` says that the caller of `proxy_thread_kill` is the terminator,
handling the death of this proxy. -/
structure ProxyChannel where
  tableLock : Option ChannelThread
  registered : Bool
  ctxLock : Option ChannelThread
  wakeup : Waiters ChannelThread
  stop : Bool
  shm : ProxyChannelShm
  proxyAlive : Bool
  terminateArray : Bool
  services : ClientServiceTable
  proxynames : ClientProxynameTable
  channel : ChannelPc
  workers : Nat → WorkerPc
  killer : KillerPc
  handling : Bool

/-- Steps of the channel thread; `created` says whether the payload segment could be made. -/
inductive ChannelEvent
  | start
  | check
  | take (rid : Rid) (pending : List Rid)
  | sleep
  | wake
  | idleLock (job : ChannelJob) (created : Bool)
  | idleRelock (job : ChannelJob) (created : Bool)
  | answer (rid : Rid) (pending : List Rid)
  | sent (rid : Rid) (pending : List Rid)
  | drop
  | leave
  | exit

/-- Steps of one worker; `reach` says whether it gets as far as the channel of this proxy. -/
inductive WorkerEvent
  | start (job : WorkerJob)
  | takeTable (job : WorkerJob)
  | find (job : WorkerJob) (reach : Bool)
  | wake (pick : Nat)
  | idleLock (rid : Rid) (text : String) (created : Bool)
  | idleRelock (rid : Rid) (text : String) (created : Bool)
  | answer
  | releaseTable

inductive KillerEvent
  | unsent
  | enter
  | takeTable
  | find
  | terminate (pickIdle pickDispatcher : Nat)
  | stop (pick : Nat)
  | releaseTable (found : Bool)
  | join
  | remove
  | drop
  | leave

/-- Steps of the proxy, which follows the request processing sequence and may die anywhere. -/
inductive ProxyEvent
  | lock
  | react (fails : Bool) (pick : Nat)
  | unlock
  | die

/-- Steps of other threads on the tables that the channel thread reads. -/
inductive TableEvent
  | serviceSet (rid : Rid) (text : String)
  | serviceRemove (rid : Rid)
  | proxynameSet (proxyName : ProxyName) (rid : Rid)
  | proxynameDrop (proxyName : ProxyName) (rid : Rid)
  | terminateArraySet

inductive ProxyChannelEvent
  | channel (e : ChannelEvent)
  | worker (n : Nat) (e : WorkerEvent)
  | killer (e : KillerEvent)
  | proxy (e : ProxyEvent)
  | table (e : TableEvent)
  | spurious (t : ChannelThread)

def ProxyChannelEvent.isSpurious : ProxyChannelEvent → Bool
  | .spurious _ => true
  | _ => false

def ChannelPc.isWaiting : ChannelPc → Bool
  | .waiting _ => true
  | _ => false

def WorkerPc.isWaiting : WorkerPc → Bool
  | .waiting _ _ => true
  | _ => false

def ChannelPc.isAnswering : ChannelPc → Bool
  | .answering _ _ => true
  | _ => false

def WorkerPc.isAnswering : WorkerPc → Bool
  | .answering => true
  | _ => false

namespace ProxyChannel

variable (proxyName : ProxyName) (s : ProxyChannel)

/-- The thread sleeps on `idle`, or was woken from it and has not got the lock yet. -/
def idleWaiting : ChannelThread → Bool
  | .channel => s.channel.isWaiting
  | .worker n => (s.workers n).isWaiting
  | _ => false

/-- The same for `dispatcher_wakeup`. -/
def answerWaiting : ChannelThread → Bool
  | .channel => s.channel.isAnswering
  | .worker n => (s.workers n).isAnswering
  | _ => false

def setWorker (n : Nat) (pc : WorkerPc) : ProxyChannel :=
  { s with workers := Function.update s.workers n pc }

/-! ## The channel thread -/

def channelGuard : ChannelEvent → Prop
  | .start => s.channel = .started ∧ s.ctxLock = none
  | .check => s.channel = .checking
  | .take rid pending => s.channel = .exchanging (rid :: pending)
  | .sleep => s.channel = .exchanging []
  | .wake => s.channel = .asleep ∧ ChannelThread.channel ∉ s.wakeup ∧ s.ctxLock = none
  | .idleLock job _ => s.channel = .locking job ∧ s.shm.lock.owner = none
  | .idleRelock job _ =>
      s.channel = .waiting job ∧ ChannelThread.channel ∉ s.shm.idle ∧ s.shm.lock.owner = none
  | .answer rid pending =>
      s.channel = .answering rid pending ∧ ChannelThread.channel ∉ s.shm.dispatcherWakeup ∧
        s.shm.lock.owner = none
  | .sent rid pending => s.channel = .sending rid pending
  | .drop => s.channel = .dropping
  | .leave => s.channel = .leaving
  | .exit => s.channel = .exiting

/-- The idle channel was refused: the lock of the segment stays with the channel thread. -/
def channelRefused (job : ChannelJob) : ProxyChannel :=
  { s with
    shm := s.shm.lockedBy .channel
    channel := match job with
      | .stopRequest => .dropping
      | .request _ _ _ => .leaving }

def channelProceed (job : ChannelJob) (created : Bool) : ProxyChannel :=
  match job with
  | .stopRequest =>
      { s with shm := s.shm.unlocked.withState .channelStopRequest, channel := .dropping }
  | .request rid text pending =>
      if created then
        { s with
          shm := s.shm.post .channel .channelRequest rid text
          channel := .answering rid pending }
      else { s with shm := s.shm.postFailed, channel := .exchanging pending }

def channelIdleWait (outcome : IdleWait) (job : ChannelJob) (created : Bool) : ProxyChannel :=
  match outcome with
  | .proceed => s.channelProceed job created
  | .refused => s.channelRefused job
  | .sleep => { s with shm := s.shm.sleepOnIdle .channel, channel := .waiting job }

/-- Woken on `dispatcher_wakeup`. A proxy that died with the lock and a terminated channel end the
exchange; an acknowledged or failed request is marked done, and any other state is passed over. -/
def channelAnswer (rid : Rid) (pending : List Rid) : ProxyChannel :=
  if s.shm.lock.ownerDead ∨ s.shm.state = .channelTermination then
    { s with shm := s.shm.unlocked, channel := .leaving }
  else if s.shm.state = .channelAcknowledged ∨ s.shm.state = .channelFails then
    { s with
      shm := (s.shm.lockedBy .channel).withState .channelDone
      channel := .sending rid pending }
  else { s with shm := s.shm.unlocked, channel := .exchanging pending }

def channelEffect : ChannelEvent → ProxyChannel
  | .start => { s with ctxLock := some .channel, channel := .checking }
  | .check =>
      { s with
        channel :=
          if s.stop then .leaving
          else if s.terminateArray then .locking .stopRequest
          else .exchanging ((clientProxynameTableRequestDup s.proxynames proxyName true).getD []) }
  | .take rid pending =>
      { s with
        channel := match clientServiceTableDup s.services rid with
          | some text => .locking (.request rid text pending)
          | none => .exchanging pending }
  | .sleep => { s with ctxLock := none, wakeup := s.wakeup ++ [.channel], channel := .asleep }
  | .wake => { s with ctxLock := some .channel, channel := .checking }
  | .idleLock job created => s.channelIdleWait s.shm.idleWaitLocked job created
  | .idleRelock job created => s.channelIdleWait s.shm.idleWaitWoken job created
  | .answer rid pending => s.channelAnswer rid pending
  | .sent rid pending =>
      { s with
        proxynames := clientProxynameTableRequestSent s.proxynames proxyName rid
        shm := s.shm.unlocked
        channel := .exchanging pending }
  | .drop => { s with terminateArray := false, channel := .leaving }
  | .leave => { s with ctxLock := none, channel := .exiting }
  | .exit =>
      { s with
        shm := { s.shm with lock := s.shm.lock.afterExit .channel }
        channel := .finished }

/-! ## Workers of the web server -/

def workerGuard (n : Nat) : WorkerEvent → Prop
  | .start _ => s.workers n = .ready
  | .takeTable job => s.workers n = .tableLocking job ∧ s.tableLock = none
  | .find job reach =>
      s.workers n = .finding job ∧ (reach → s.registered) ∧ (job = .route → s.registered → reach)
  | .wake _ => s.workers n = .ctxLocking ∧ s.ctxLock = none
  | .idleLock rid text _ => s.workers n = .locking rid text ∧ s.shm.lock.owner = none
  | .idleRelock rid text _ =>
      s.workers n = .waiting rid text ∧ ChannelThread.worker n ∉ s.shm.idle ∧
        s.shm.lock.owner = none
  | .answer =>
      s.workers n = .answering ∧ ChannelThread.worker n ∉ s.shm.dispatcherWakeup ∧
        s.shm.lock.owner = none
  | .releaseTable => s.workers n = .tableUnlocking

/-- `proxy_channel_rest` after `proxy_channel_idle_wait`: refused, it returns with the lock held. -/
def workerIdleWait (n : Nat) (outcome : IdleWait) (rid : Rid) (text : String) (created : Bool) :
    ProxyChannel :=
  match outcome with
  | .proceed =>
      if created then
        { s.setWorker n .answering with
          shm := s.shm.post (.worker n) .channelRest rid text }
      else { s.setWorker n .tableUnlocking with shm := s.shm.postFailed }
  | .refused => { s.setWorker n .tableUnlocking with shm := s.shm.lockedBy (.worker n) }
  | .sleep => { s.setWorker n (.waiting rid text) with shm := s.shm.sleepOnIdle (.worker n) }

def workerEffect (n : Nat) : WorkerEvent → ProxyChannel
  | .start job => s.setWorker n (.tableLocking job)
  | .takeTable job => { s.setWorker n (.finding job) with tableLock := some (.worker n) }
  | .find job reach =>
      s.setWorker n
        (if reach then
          match job with
          | .rest rid text => .locking rid text
          | _ => .ctxLocking
        else .tableUnlocking)
  | .wake pick => { s.setWorker n .tableUnlocking with wakeup := s.wakeup.signal pick }
  | .idleLock rid text created => s.workerIdleWait n s.shm.idleWaitLocked rid text created
  | .idleRelock rid text created => s.workerIdleWait n s.shm.idleWaitWoken rid text created
  | .answer =>
      { s.setWorker n .tableUnlocking with
        shm := if ¬ s.shm.lock.ownerDead ∧ s.shm.state = .channelRestRespond then
            s.shm.unlocked.withState .channelDone
          else s.shm.unlocked }
  | .releaseTable => { s.setWorker n .ready with tableLock := none }

/-! ## The caller of `proxy_thread_kill` -/

def killerGuard : KillerEvent → Prop
  | .unsent => s.killer = .ready
  | .enter => s.killer = .ready
  | .takeTable => s.killer = .tableLocking ∧ s.tableLock = none
  | .find => s.killer = .finding
  | .terminate _ _ => s.killer = .terminating ∧ s.shm.lock.owner = none
  | .stop _ => s.killer = .stopping ∧ s.ctxLock = none
  | .releaseTable found => s.killer = .tableUnlocking found
  | .join => s.killer = .joining ∧ s.channel = .finished
  | .remove => s.killer = .removing ∧ s.tableLock = none
  | .drop => s.killer = .killed ∧ s.handling = true
  | .leave => s.killer = .killed ∧ s.handling = false

def killerEffect : KillerEvent → ProxyChannel
  | .unsent =>
      { s with
        proxynames := clientProxynameTableRequestUnsent s.proxynames proxyName
        handling := true
        killer := .tableLocking }
  | .enter => { s with killer := .tableLocking }
  | .takeTable => { s with tableLock := some .killer, killer := .finding }
  | .find => { s with killer := if s.registered then .terminating else .tableUnlocking false }
  | .terminate pickIdle pickDispatcher =>
      { s with
        shm :=
          { s.shm.unlocked.withState .channelTermination with
            idle := s.shm.idle.signal pickIdle
            dispatcherWakeup := s.shm.dispatcherWakeup.signal pickDispatcher }
        killer := .stopping }
  | .stop pick =>
      { s with stop := true, wakeup := s.wakeup.signal pick, killer := .tableUnlocking true }
  | .releaseTable found =>
      { s with tableLock := none, killer := if found then .joining else .killed }
  | .join => { s with killer := .removing }
  | .remove => { s with registered := false, killer := .killed }
  | .drop => { s with handling := false, killer := .ready }
  | .leave => { s with killer := .ready }

/-! ## The proxy -/

/-- The state that the proxy writes in answer to a state, when it reacts to it at all. -/
def proxyReaction (fails : Bool) : ProxyChannelState → Option ProxyChannelState
  | .channelInit => some .channelIdle
  | .channelRequest => some (if fails then .channelFails else .channelAcknowledged)
  | .channelRest => some .channelRestRespond
  | .channelDone => some .channelIdle
  | _ => none

def proxyGuard : ProxyEvent → Prop
  | .lock => s.proxyAlive = true ∧ s.shm.lock.owner = none
  | .react fails _ =>
      s.shm.lock.owner = some .proxy ∧ (proxyReaction fails s.shm.state).isSome = true
  | .unlock => s.shm.lock.owner = some .proxy
  | .die => s.proxyAlive = true

/-- The idle state is signalled on `idle`, an answer on `dispatcher_wakeup`. -/
def proxyReact (fails : Bool) (pick : Nat) : ProxyChannel :=
  match proxyReaction fails s.shm.state with
  | none => s
  | some .channelIdle =>
      { s with shm := { s.shm.withState .channelIdle with idle := s.shm.idle.signal pick } }
  | some state =>
      { s with
        shm := { s.shm.withState state with
          dispatcherWakeup := s.shm.dispatcherWakeup.signal pick } }

def proxyEffect : ProxyEvent → ProxyChannel
  | .lock => { s with shm := s.shm.lockedBy .proxy }
  | .react fails pick => s.proxyReact fails pick
  | .unlock => { s with shm := s.shm.unlocked }
  | .die =>
      { s with
        proxyAlive := false
        shm := { s.shm with lock := s.shm.lock.afterExit .proxy } }

/-! ## The tables -/

def tableEffect : TableEvent → ProxyChannel
  | .serviceSet rid text => { s with services := clientServiceTableSet s.services rid text }
  | .serviceRemove rid => { s with services := clientServiceTableRemove s.services rid }
  | .proxynameSet name rid => { s with proxynames := clientProxynameTableSet s.proxynames name rid }
  | .proxynameDrop name rid =>
      { s with proxynames := (clientProxynameTableDrop s.proxynames name rid).2 }
  | .terminateArraySet => { s with terminateArray := true }

/-! ## Spurious wakeups -/

def spuriousGuard (t : ChannelThread) : Prop :=
  t ∈ s.shm.idle ∨ t ∈ s.shm.dispatcherWakeup ∨ t ∈ s.wakeup

def spuriousEffect (t : ChannelThread) : ProxyChannel :=
  { s with
    shm := { s.shm with
      idle := s.shm.idle.erase t
      dispatcherWakeup := s.shm.dispatcherWakeup.erase t }
    wakeup := s.wakeup.erase t }

/-! ## The system -/

def guard : ProxyChannelEvent → Prop
  | .channel e => s.channelGuard e
  | .worker n e => s.workerGuard n e
  | .killer e => s.killerGuard e
  | .proxy e => s.proxyGuard e
  | .table _ => True
  | .spurious t => s.spuriousGuard t

def effect : ProxyChannelEvent → ProxyChannel
  | .channel e => s.channelEffect proxyName e
  | .worker n e => s.workerEffect n e
  | .killer e => s.killerEffect proxyName e
  | .proxy e => s.proxyEffect e
  | .table e => s.tableEffect e
  | .spurious t => s.spuriousEffect t

/-- A registered channel whose thread is about to start. -/
structure Starts : Prop where
  tableLock : s.tableLock = none
  registered : s.registered = true
  ctxLock : s.ctxLock = none
  wakeup : s.wakeup = []
  stop : s.stop = false
  shmLock : s.shm.lock = .free
  idle : s.shm.idle = []
  dispatcherWakeup : s.shm.dispatcherWakeup = []
  shmState : s.shm.state = .channelInit ∨ s.shm.state = .channelIdle
  proxyAlive : s.proxyAlive = true
  channel : s.channel = .started
  workers : ∀ n, s.workers n = .ready
  killer : s.killer = .ready
  handling : s.handling = false

end ProxyChannel

def proxyChannelSystem (proxyName : ProxyName) : TransitionSystem ProxyChannel ProxyChannelEvent where
  init s := s.Starts
  guard s e := s.guard e
  effect s e := s.effect proxyName e

/-- A channel at its start, with the tables of waiting requests. -/
def startedProxyChannel (services : ClientServiceTable) (proxynames : ClientProxynameTable) :
    ProxyChannel where
  tableLock := none
  registered := true
  ctxLock := none
  wakeup := []
  stop := false
  shm := ⟨.free, [], [], .channelIdle, "", 0⟩
  proxyAlive := true
  terminateArray := false
  services := services
  proxynames := proxynames
  channel := .started
  workers _ := .ready
  killer := .ready
  handling := false

theorem starts_startedProxyChannel (services : ClientServiceTable) (proxynames : ClientProxynameTable) :
    (startedProxyChannel services proxynames).Starts :=
  ⟨rfl, rfl, rfl, rfl, rfl, rfl, rfl, rfl, .inr rfl, rfl, rfl, fun _ => rfl, rfl, rfl⟩

namespace ProxyChannel

variable (s : ProxyChannel)

instance decidableChannelGuard : ∀ e, Decidable (s.channelGuard e)
  | .start | .wake | .idleLock _ _ | .idleRelock _ _ | .answer _ _ =>
      inferInstanceAs (Decidable (_ ∧ _))
  | .check | .take _ _ | .sleep | .sent _ _ | .drop | .leave | .exit =>
      inferInstanceAs (Decidable (_ = _))

instance decidableWorkerGuard (n : Nat) : ∀ e, Decidable (s.workerGuard n e)
  | .takeTable _ | .find _ _ | .wake _ | .idleLock _ _ _ | .idleRelock _ _ _ | .answer =>
      inferInstanceAs (Decidable (_ ∧ _))
  | .start _ | .releaseTable => inferInstanceAs (Decidable (_ = _))

instance decidableKillerGuard : ∀ e, Decidable (s.killerGuard e)
  | .takeTable | .terminate _ _ | .stop _ | .join | .remove | .drop | .leave =>
      inferInstanceAs (Decidable (_ ∧ _))
  | .unsent | .enter | .find | .releaseTable _ => inferInstanceAs (Decidable (_ = _))

instance decidableProxyGuard : ∀ e, Decidable (s.proxyGuard e)
  | .lock | .react _ _ => inferInstanceAs (Decidable (_ ∧ _))
  | .unlock | .die => inferInstanceAs (Decidable (_ = _))

instance decidableGuard : ∀ e, Decidable (s.guard e)
  | .channel e => s.decidableChannelGuard e
  | .worker n e => s.decidableWorkerGuard n e
  | .killer e => s.decidableKillerGuard e
  | .proxy e => s.decidableProxyGuard e
  | .table _ => inferInstanceAs (Decidable True)
  | .spurious _ => inferInstanceAs (Decidable (_ ∨ _ ∨ _))

end ProxyChannel

instance decidableProxyChannelSystemGuard (proxyName : ProxyName) (s : ProxyChannel)
    (e : ProxyChannelEvent) : Decidable ((proxyChannelSystem proxyName).guard s e) :=
  s.decidableGuard e

end Gonggo
