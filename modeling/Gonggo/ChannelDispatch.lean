import Gonggo.ChannelInvariants
import Gonggo.ClientService

/-! # Dispatch to the channel of one proxy

The callers that fill the request tables and wake the channel thread, the activator that starts,
registers and wakes it, and the threads that end it. The channel thread and the proxy are those of
the channel that is current; each step is one access to a table with a lock of its own, or runs from
one blocking call to the next. Only requests go over the channel.
-/

namespace Gonggo

/-- `client_service_route` from its acknowledgement on, and `client_service_drop_conn`; `listed` says
that a drop request for the proxy at hand is in the table. -/
inductive CallerPc
  | ready
  | connectionSetting (conn : Conn) (rid : Rid) (proxyName : ProxyName) (text : String)
  | serviceSetting (rid : Rid) (proxyName : ProxyName) (text : String)
  | nameSetting (rid : Rid) (proxyName : ProxyName)
  | tableLocking (proxyName : ProxyName)
  | finding (proxyName : ProxyName)
  | waking
  | tableUnlocking
  | grouping (conn : Conn) (rids : List Rid) (grouped : ClientProxynameTable)
  | serviceRemoving (conn : Conn) (rid : Rid) (rids : List Rid) (grouped : ClientProxynameTable)
  | keysCopying (conn : Conn) (rid : Rid) (rids : List Rid) (grouped : ClientProxynameTable)
  | nameDropping (conn : Conn) (rid : Rid) (names : List ProxyName) (rids : List Rid)
      (grouped : ClientProxynameTable)
  | dropLocking (conn : Conn) (grouped : ClientProxynameTable)
  | dropFinding (conn : Conn) (todo : List (ProxyName × List Rid))
  | dropStoring (conn : Conn) (proxyName : ProxyName) (rids : List Rid) (listed : Bool)
      (todo : List (ProxyName × List Rid))
  | dropListing (conn : Conn) (proxyName : ProxyName) (requestUuid rid : Rid) (rids : List Rid)
      (listed : Bool) (todo : List (ProxyName × List Rid))
  | dropWaking (conn : Conn) (proxyName : ProxyName) (todo : List (ProxyName × List Rid))
  | dropUnlocking (conn : Conn)
  | connectionRemoving (conn : Conn)

/-- The connection that the caller is dropping. -/
def CallerPc.closing : CallerPc → Option Conn
  | .grouping conn _ _ | .serviceRemoving conn _ _ _ | .keysCopying conn _ _ _
  | .nameDropping conn _ _ _ _ | .dropLocking conn _ | .dropFinding conn _
  | .dropStoring conn _ _ _ _ | .dropListing conn _ _ _ _ _ _ | .dropWaking conn _ _
  | .dropUnlocking conn | .connectionRemoving conn => some conn
  | _ => none

def CallerPc.isReady : CallerPc → Bool
  | .ready => true
  | _ => false

/-- What a caller reads besides the tables: the iteration order of a table, the generated id,
whether another proxy has a channel, and who is woken. -/
structure CallerChoice where
  order : Traversal ProxyName
  generated : Rid
  found : Bool
  pick : Nat

/-- `proxy_activation` of this proxy from its call of `proxy_thread_kill` on, and the registration in
`proxy_activator`. -/
inductive ActivationPc
  | idle
  | waiting
  | killing
  | creating
  | responding
  | arraySetting
  | waking
  | terminating
  | stopping
  | joining
  | registering
  | draining
  deriving DecidableEq

inductive ActivationOutcome
  | success
  | failed
  | timedOut
  deriving DecidableEq

/-- The terminator while it handles the death of this proxy. -/
inductive TerminationPc
  | idle
  | unsenting
  | waiting
  | killing
  | dropping
  deriving DecidableEq

/-- The call of `proxy_thread_kill` that has its lock. -/
structure KillTurn where
  byTerminator : Bool
  pc : KillerPc
  deriving DecidableEq

/-- What happened so far: who submitted which id, what was stored and listed under the ids, what was
handed over, since when the current incarnation runs, whether the drain signal was sent for it and
whether the terminator took up the proxy since. For each caller that drops a connection, the requests
that were listed under this proxy when it began and those whose channel it did not find; then the
drop requests with the request they name, and the requests that were handed over to the current
incarnation when the drop of their connection ended. -/
structure DispatchHistory where
  submitted : List (Conn × Rid)
  stored : List (Rid × String)
  inserted : List (ProxyName × Rid)
  handedOver : List (Rid × String)
  mark : Nat
  drained : Bool
  handled : Bool
  begun : Nat → List Rid
  missed : Nat → List Rid
  drops : List (Rid × Rid)
  owed : List Rid

structure ChannelDispatch where
  current : ProxyChannel
  connections : ClientConnectionTable
  tableLock : Option ChannelThread
  callers : Nat → CallerPc
  activator : ActivationPc
  terminator : TerminationPc
  kill : Option KillTurn
  history : DispatchHistory

inductive DispatchEvent
  | route (n : Nat) (conn : Conn) (rid : Rid) (proxyName : ProxyName) (text : String)
  | dropConn (n : Nat) (conn : Conn)
  | caller (n : Nat) (choice : CallerChoice)
  | channel (e : ChannelEvent)
  | proxy (e : ProxyEvent)
  | activate
  | activator (outcome : ActivationOutcome) (pickIdle pickDispatcher pick : Nat)
  | pick
  | terminator
  | killer (pickIdle pickDispatcher pick : Nat)
  | removeService (rid : Rid)
  | dropName (proxyName : ProxyName) (rid : Rid)
  | spurious

namespace ProxyChannel

variable (s : ProxyChannel)

/-- The signal on the condition of the context. -/
def wake (pick : Nat) : ProxyChannel := { s with wakeup := s.wakeup.signal pick }

/-- `proxy_channel_stop`, which locks the segment and then the context. -/
def stopSegment (pickIdle pickDispatcher : Nat) : ProxyChannel :=
  { s with
    shm :=
      { s.shm.unlocked.withState .channelTermination with
        idle := s.shm.idle.signal pickIdle
        dispatcherWakeup := s.shm.dispatcherWakeup.signal pickDispatcher } }

def stopContext (pick : Nat) : ProxyChannel := { s.wake pick with stop := true }

/-- A new context and thread; the proxy has set up its segment. -/
def restarted : ProxyChannel :=
  { s with
    ctxLock := none
    wakeup := []
    stop := false
    shm := ⟨.free, [], [], .channelInit, "", 0⟩
    proxyAlive := true
    channel := .started }

def setServices (services : ClientServiceTable) : ProxyChannel := { s with services := services }

def setProxynames (proxynames : ClientProxynameTable) : ProxyChannel :=
  { s with proxynames := proxynames }

/-- The request that the step writes into the segment. -/
def handsOver : ChannelEvent → Option (Rid × String)
  | .idleLock (.request rid text _) true =>
      if s.shm.idleWaitLocked = .proceed then some (rid, text) else none
  | .idleRelock (.request rid text _) true =>
      if s.shm.idleWaitWoken = .proceed then some (rid, text) else none
  | _ => none

end ProxyChannel

/-- The entries of the local table in the order of the visit. -/
def groupedTargets (order : Traversal ProxyName) (grouped : ClientProxynameTable) :
    List (ProxyName × List Rid) :=
  (order.visit grouped.keys).map fun proxyName =>
    (proxyName, ((grouped.lookup proxyName).map fun value => value.requestUuids.uuids).getD [])

namespace ChannelDispatch

variable (print : Printer) (proxyName : ProxyName) (s : ChannelDispatch)

def setCaller (n : Nat) (pc : CallerPc) : ChannelDispatch :=
  { s with callers := Function.update s.callers n pc }

def setCurrent (current : ProxyChannel) : ChannelDispatch := { s with current := current }

def storeService (rid : Rid) (text : String) : ChannelDispatch :=
  { s with
    current := s.current.setServices (clientServiceTableSet s.current.services rid text)
    history := { s.history with stored := s.history.stored ++ [(rid, text)] } }

def listName (name : ProxyName) (rid : Rid) : ChannelDispatch :=
  { s with
    current := s.current.setProxynames (clientProxynameTableSet s.current.proxynames name rid)
    history := { s.history with inserted := s.history.inserted ++ [(name, rid)] } }

def removeService (rid : Rid) : ChannelDispatch :=
  s.setCurrent (s.current.setServices (clientServiceTableRemove s.current.services rid))

def dropName (name : ProxyName) (rid : Rid) : ChannelDispatch :=
  s.setCurrent (s.current.setProxynames (clientProxynameTableDrop s.current.proxynames name rid).2)

/-- What the running incarnation was handed over. -/
def handedOverNow : List (Rid × String) := s.history.handedOver.drop s.history.mark

/-! ## Callers -/

def callerEnabled (n : Nat) : Bool :=
  match s.callers n with
  | .ready => false
  | .tableLocking _ | .dropLocking _ _ => s.tableLock.isNone
  | .waking => s.current.ctxLock.isNone
  | .dropWaking _ name _ => name ≠ proxyName || s.current.ctxLock.isNone
  | _ => true

/-- The requests of the connection that are listed under this proxy. -/
def listedOf (conn : Conn) : List Rid :=
  ((clientConnectionTableRequestDup s.connections conn).getD []).filter fun rid =>
    ListedUnder s.current.proxynames proxyName rid

def dropConnStart (n : Nat) (conn : Conn) : ChannelDispatch :=
  match clientConnectionTableRequestDup s.connections conn with
  | none => s
  | some rids =>
      { s.setCaller n (.grouping conn rids HashTable.empty) with
        history :=
          { s.history with
            begun := Function.update s.history.begun n (s.listedOf proxyName conn)
            missed := Function.update s.history.missed n [] } }

/-- A caller for another proxy passes the table of the channels without meeting this channel. -/
def callerEffect (n : Nat) (c : CallerChoice) : ChannelDispatch :=
  match s.callers n with
  | .ready => s
  | .connectionSetting conn rid name text =>
      { s.setCaller n (.serviceSetting rid name text) with
        connections := clientConnectionTableSet s.connections conn rid
        history := { s.history with submitted := s.history.submitted ++ [(conn, rid)] } }
  | .serviceSetting rid name text => (s.storeService rid text).setCaller n (.nameSetting rid name)
  | .nameSetting rid name => (s.listName name rid).setCaller n (.tableLocking name)
  | .tableLocking name => { s.setCaller n (.finding name) with tableLock := some (.worker n) }
  | .finding name =>
      s.setCaller n (if name = proxyName ∧ s.current.registered then .waking else .tableUnlocking)
  | .waking => (s.setCurrent (s.current.wake c.pick)).setCaller n .tableUnlocking
  | .tableUnlocking => { s.setCaller n .ready with tableLock := none }
  | .grouping conn [] grouped => s.setCaller n (.dropLocking conn grouped)
  | .grouping conn (rid :: rids) grouped =>
      s.setCaller n (.serviceRemoving conn rid rids
        (match clientProxynameTableProxyNameDup s.current.proxynames c.order rid with
          | some name => clientProxynameTableSet grouped name rid
          | none => grouped))
  | .serviceRemoving conn rid rids grouped =>
      (s.removeService rid).setCaller n (.keysCopying conn rid rids grouped)
  | .keysCopying conn rid rids grouped =>
      s.setCaller n (.nameDropping conn rid (c.order.visit s.current.proxynames.keys) rids grouped)
  | .nameDropping conn _ [] rids grouped => s.setCaller n (.grouping conn rids grouped)
  | .nameDropping conn rid (name :: names) rids grouped =>
      (s.dropName name rid).setCaller n
        (if (clientProxynameTableDrop s.current.proxynames name rid).1 then .grouping conn rids grouped
        else .nameDropping conn rid names rids grouped)
  | .dropLocking conn grouped =>
      { s.setCaller n (.dropFinding conn (groupedTargets c.order grouped)) with
        tableLock := some (.worker n) }
  | .dropFinding conn [] => s.setCaller n (.dropUnlocking conn)
  | .dropFinding conn ((name, rids) :: todo) =>
      if name = proxyName then
        if s.current.registered then s.setCaller n (.dropStoring conn name rids false todo)
        else
          { s.setCaller n (.dropFinding conn todo) with
            history := { s.history with missed := Function.update s.history.missed n (s.history.missed n ++ rids) } }
      else
        s.setCaller n (if c.found then .dropStoring conn name rids false todo else .dropFinding conn todo)
  | .dropStoring conn name [] _ todo => s.setCaller n (.dropWaking conn name todo)
  | .dropStoring conn name (requestUuid :: rids) listed todo =>
      let stored := s.storeService c.generated (requestDropText print requestUuid)
      { stored.setCaller n (.dropListing conn name requestUuid c.generated rids listed todo) with
        history :=
          { stored.history with drops := s.history.drops ++ [(requestUuid, c.generated)] } }
  | .dropListing conn name _ rid rids _ todo =>
      (s.listName name rid).setCaller n (.dropStoring conn name rids true todo)
  | .dropWaking conn name todo =>
      (s.setCurrent (if name = proxyName then s.current.wake c.pick else s.current)).setCaller n
        (.dropFinding conn todo)
  | .dropUnlocking conn => { s.setCaller n (.connectionRemoving conn) with tableLock := none }
  | .connectionRemoving conn =>
      { s.setCaller n .ready with
        connections := clientConnectionTableRemove s.connections conn
        history :=
          { s.history with
            owed := s.history.owed ++
              (s.history.begun n).filter fun rid => rid ∈ s.handedOverNow.map Prod.fst
            begun := Function.update s.history.begun n []
            missed := Function.update s.history.missed n [] } }

/-! ## The calls of `proxy_thread_kill` -/

def killerEnabled : Bool :=
  match s.kill with
  | none => false
  | some turn =>
      match turn.pc with
      | .ready => false
      | .tableLocking | .removing => s.tableLock.isNone
      | .terminating => s.current.shm.lock.owner.isNone
      | .stopping => s.current.ctxLock.isNone
      | .joining => s.current.channel = .finished
      | _ => true

def killTo (turn : KillTurn) (pc : KillerPc) : ChannelDispatch :=
  { s with kill := some { turn with pc := pc } }

def killLeave (turn : KillTurn) : ChannelDispatch :=
  { s with
    kill := none
    activator := if turn.byTerminator then s.activator else .creating
    terminator := if turn.byTerminator then .dropping else s.terminator }

def killEffect (turn : KillTurn) (pickIdle pickDispatcher pick : Nat) : ChannelDispatch :=
  match turn.pc with
  | .ready => s
  | .tableLocking => { s.killTo turn .finding with tableLock := some .killer }
  | .finding => s.killTo turn (if s.current.registered then .terminating else .tableUnlocking false)
  | .terminating => (s.setCurrent (s.current.stopSegment pickIdle pickDispatcher)).killTo turn .stopping
  | .stopping => (s.setCurrent (s.current.stopContext pick)).killTo turn (.tableUnlocking true)
  | .tableUnlocking found =>
      { s.killTo turn (if found then .joining else .killed) with tableLock := none }
  | .joining => s.killTo turn .removing
  | .removing => (s.setCurrent { s.current with registered := false }).killTo turn .killed
  | .killed => s.killLeave turn

/-! ## The activator and the terminator -/

def activatorEnabled : Bool :=
  match s.activator with
  | .idle | .killing => false
  | .waiting => s.kill.isNone
  | .creating | .responding | .arraySetting => true
  | .registering => s.tableLock.isNone
  | .terminating => s.current.shm.lock.owner.isNone
  | .waking | .stopping | .draining => s.current.ctxLock.isNone
  | .joining => s.current.channel = .finished

/-- A failed activation stops and joins the thread that it made; one that does not get as far as the
thread of the channel ends at once. -/
def activatorEffect (outcome : ActivationOutcome) (pickIdle pickDispatcher pick : Nat) :
    ChannelDispatch :=
  match s.activator with
  | .idle | .killing => s
  | .waiting => { s with activator := .killing, kill := some ⟨false, .tableLocking⟩ }
  | .creating =>
      if outcome = .success then
        { s with
          current := s.current.restarted
          activator := .responding
          history :=
            { s.history with
              mark := s.history.handedOver.length
              drained := false
              handled := decide (s.terminator ≠ .idle) } }
      else { s with activator := .idle }
  | .responding =>
      { s with
        activator := match outcome with
          | .success => .registering
          | .failed => .terminating
          | .timedOut => .arraySetting }
  | .arraySetting =>
      { s with current := { s.current with terminateArray := true }, activator := .waking }
  | .waking => { s with current := s.current.wake pick, activator := .terminating }
  | .terminating =>
      { s with current := s.current.stopSegment pickIdle pickDispatcher, activator := .stopping }
  | .stopping => { s with current := s.current.stopContext pick, activator := .joining }
  | .joining => { s with activator := .idle }
  | .registering => { s with current := { s.current with registered := true }, activator := .draining }
  | .draining =>
      { s with
        current := s.current.wake pick
        activator := .idle
        history := { s.history with drained := true } }

def terminatorEnabled : Bool :=
  match s.terminator with
  | .idle | .killing => false
  | .waiting => s.kill.isNone
  | .unsenting | .dropping => true

def terminatorEffect : ChannelDispatch :=
  match s.terminator with
  | .idle | .killing => s
  | .unsenting =>
      { s with
        current :=
          s.current.setProxynames (clientProxynameTableRequestUnsent s.current.proxynames proxyName)
        terminator := .waiting }
  | .waiting => { s with terminator := .killing, kill := some ⟨true, .tableLocking⟩ }
  | .dropping => { s with terminator := .idle }

/-! ## The system -/

/-- The web server drops a connection once. -/
def guard : DispatchEvent → Prop
  | .route n _ _ _ _ => (s.callers n).isReady = true
  | .dropConn n conn => (s.callers n).isReady = true ∧ ∀ m, (s.callers m).closing ≠ some conn
  | .caller n _ => s.callerEnabled proxyName n = true
  | .channel e => s.current.channelGuard e
  | .proxy e => s.current.proxyGuard e
  | .activate => s.activator = .idle
  | .activator _ _ _ _ => s.activatorEnabled = true
  | .pick => s.terminator = .idle
  | .terminator => s.terminatorEnabled = true
  | .killer _ _ _ => s.killerEnabled = true
  | .removeService _ | .dropName _ _ => True
  | .spurious => s.current.spuriousGuard .channel

def effect : DispatchEvent → ChannelDispatch
  | .route n conn rid name text => s.setCaller n (.connectionSetting conn rid name text)
  | .dropConn n conn => s.dropConnStart proxyName n conn
  | .caller n c => s.callerEffect print proxyName n c
  | .channel e =>
      { s with
        current := s.current.channelEffect proxyName e
        history :=
          { s.history with
            handedOver := s.history.handedOver ++ (s.current.handsOver e).toList } }
  | .proxy e => s.setCurrent (s.current.proxyEffect e)
  | .activate => { s with activator := .waiting }
  | .activator outcome pickIdle pickDispatcher pick =>
      s.activatorEffect outcome pickIdle pickDispatcher pick
  | .pick =>
      { s with terminator := .unsenting, history := { s.history with handled := true } }
  | .terminator => s.terminatorEffect proxyName
  | .killer pickIdle pickDispatcher pick =>
      match s.kill with
      | none => s
      | some turn => s.killEffect turn pickIdle pickDispatcher pick
  | .removeService rid => s.removeService rid
  | .dropName name rid => s.dropName name rid
  | .spurious => s.setCurrent (s.current.spuriousEffect .channel)

/-- Ids are fresh: none is submitted, stored or listed a second time. -/
def FreshStep (history : DispatchHistory) (generated : Rid) : CallerPc → Prop
  | .connectionSetting _ rid _ _ => rid ∉ history.submitted.map Prod.snd
  | .serviceSetting rid _ _ => rid ∉ history.stored.map Prod.fst
  | .nameSetting rid _ | .dropListing _ _ _ rid _ _ _ => rid ∉ history.inserted.map Prod.snd
  | .dropStoring _ _ (_ :: _) _ _ => generated ∉ history.stored.map Prod.fst
  | _ => True

def Fresh : DispatchEvent → Prop
  | .caller n c => FreshStep s.history c.generated (s.callers n)
  | _ => True

/-- Ids are fresh, payload segments can be made and the channel thread sleeps until it is signalled. -/
def Orderly : DispatchEvent → Prop
  | .caller n c => FreshStep s.history c.generated (s.callers n)
  | .channel (.idleLock _ created) | .channel (.idleRelock _ created) => created = true
  | .spurious => False
  | _ => True

def started : ChannelDispatch where
  current :=
    { startedProxyChannel HashTable.empty HashTable.empty with registered := false, channel := .finished }
  connections := HashTable.empty
  tableLock := none
  callers _ := .ready
  activator := .idle
  terminator := .idle
  kill := none
  history := ⟨[], [], [], [], 0, false, false, fun _ => [], fun _ => [], [], []⟩

end ChannelDispatch

def channelDispatchSystem (print : Printer) (proxyName : ProxyName) :
    TransitionSystem ChannelDispatch DispatchEvent where
  init s := s = .started
  guard s e := s.guard proxyName e
  effect s e := s.effect print proxyName e

namespace ChannelDispatch

variable (proxyName : ProxyName) (s : ChannelDispatch)

/-- Whether a connection is being dropped elsewhere is not decided. -/
noncomputable instance decidableGuard : ∀ e, Decidable (s.guard proxyName e)
  | .dropConn _ _ => Classical.propDecidable _
  | .channel e => s.current.decidableChannelGuard e
  | .proxy e => s.current.decidableProxyGuard e
  | .route _ _ _ _ _ | .caller _ _ | .activate | .activator _ _ _ _ | .pick | .terminator
  | .killer _ _ _ => inferInstanceAs (Decidable (_ = _))
  | .removeService _ | .dropName _ _ => inferInstanceAs (Decidable True)
  | .spurious => inferInstanceAs (Decidable (_ ∨ _ ∨ _))

instance decidableFreshStep (history : DispatchHistory) (generated : Rid) :
    ∀ pc, Decidable (FreshStep history generated pc)
  | .connectionSetting _ _ _ _ | .serviceSetting _ _ _ | .nameSetting _ _
  | .dropListing _ _ _ _ _ _ _ | .dropStoring _ _ (_ :: _) _ _ => inferInstanceAs (Decidable (_ ∉ _))
  | .ready | .tableLocking _ | .finding _ | .waking | .tableUnlocking | .grouping _ _ _
  | .serviceRemoving _ _ _ _ | .keysCopying _ _ _ _ | .nameDropping _ _ _ _ _ | .dropLocking _ _
  | .dropFinding _ _ | .dropStoring _ _ [] _ _ | .dropWaking _ _ _ | .dropUnlocking _
  | .connectionRemoving _ => inferInstanceAs (Decidable True)

instance decidableOrderly : ∀ e, Decidable (s.Orderly e)
  | .caller n c => decidableFreshStep s.history c.generated (s.callers n)
  | .spurious => inferInstanceAs (Decidable False)
  | .channel (.idleLock _ _) | .channel (.idleRelock _ _) => inferInstanceAs (Decidable (_ = _))
  | .channel .start | .channel .check | .channel (.take _ _) | .channel .sleep | .channel .wake
  | .channel (.answer _ _) | .channel (.sent _ _) | .channel .drop | .channel .leave | .channel .exit
  | .route _ _ _ _ _ | .dropConn _ _ | .proxy _ | .activate | .activator _ _ _ _ | .pick
  | .terminator | .killer _ _ _ | .removeService _ | .dropName _ _ => inferInstanceAs (Decidable True)

end ChannelDispatch

noncomputable instance decidableChannelDispatchGuard (print : Printer) (proxyName : ProxyName)
    (s : ChannelDispatch) (e : DispatchEvent) :
    Decidable ((channelDispatchSystem print proxyName).guard s e) :=
  s.decidableGuard proxyName e

/-! ## Sample runs -/

/-- A caller with the ids it generates and with its tables in order. -/
def sampleChoice (generated : Rid) : CallerChoice := ⟨.inOrder, generated, true, 0⟩

/-- The activation of the proxy as far as its new channel thread. -/
def sampleActivation : List DispatchEvent :=
  [.activate, .activator .success 0 0 0, .killer 0 0 0, .killer 0 0 0, .killer 0 0 0, .killer 0 0 0,
    .activator .success 0 0 0]

/-- The registration of the channel and the drain signal. -/
def sampleRegistration : List DispatchEvent :=
  [.activator .success 0 0 0, .activator .success 0 0 0, .activator .success 0 0 0]

/-- The proxy takes the lock, reacts to the state and releases the lock. -/
def sampleReaction : List DispatchEvent := [.proxy .lock, .proxy (.react false 0), .proxy .unlock]

/-- A request that is acknowledged and listed by a caller. -/
def sampleListing (n : Nat) (conn : Conn) (rid : Rid) (proxyName : ProxyName) (text : String) :
    List DispatchEvent :=
  .route n conn rid proxyName text :: List.replicate 3 (.caller n (sampleChoice ""))

end Gonggo
