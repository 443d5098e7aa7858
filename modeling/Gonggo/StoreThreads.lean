import Gonggo.Library.TransitionSystem
import Gonggo.ProxySubscribe
import Mathlib.Logic.Function.Basic

/-! # Threads on the request store

The callers of the request store take one table operation or one websocket write at a time. A worker
of the web server serves one connection: it routes each message to its end before the next and runs
the close handler last. Beside the workers run the subscribe threads, the client timeout thread and
the threads that announce a proxy. A history of the acknowledged requests is kept along; no step
reads it.
-/

namespace Gonggo

/-! ## Acknowledged requests -/

/-- The acknowledged requests by number: connection and id, whether the row is written and all route
steps are done, how many terminal messages were written, whether the connection is closed and whether
a clear answer purged the request. Beside them the last number under each id, and the number whose
row was written last under each id. -/
structure UseHistory where
  count : Nat
  conn : Nat → Conn
  rid : Nat → Rid
  saved : Nat → Bool
  routed : Nat → Bool
  terminals : Nat → Nat
  closed : Nat → Bool
  purged : Nat → Bool
  last : Rid → Option Nat
  entry : Rid → Nat

namespace UseHistory

def empty : UseHistory where
  count := 0
  conn _ := 0
  rid _ := ""
  saved _ := false
  routed _ := false
  terminals _ := 0
  closed _ := false
  purged _ := false
  last _ := none
  entry _ := 0

def acknowledge (history : UseHistory) (conn : Conn) (rid : Rid) : UseHistory where
  count := history.count + 1
  conn := Function.update history.conn history.count conn
  rid := Function.update history.rid history.count rid
  saved := Function.update history.saved history.count false
  routed := Function.update history.routed history.count false
  terminals := Function.update history.terminals history.count 0
  closed := Function.update history.closed history.count false
  purged := Function.update history.purged history.count false
  last := Function.update history.last rid (some history.count)
  entry := history.entry

def save (history : UseHistory) (rid : Rid) (k : Nat) : UseHistory :=
  { history with
    saved := Function.update history.saved k true
    entry := Function.update history.entry rid k }

def route (history : UseHistory) (k : Nat) : UseHistory :=
  { history with routed := Function.update history.routed k true }

def terminal (history : UseHistory) (k : Nat) : UseHistory :=
  { history with terminals := Function.update history.terminals k (history.terminals k + 1) }

theorem acknowledge_of_lt (history : UseHistory) (conn : Conn) (rid : Rid) {k : Nat}
    (h : k < history.count) :
    (history.acknowledge conn rid).conn k = history.conn k ∧
      (history.acknowledge conn rid).rid k = history.rid k ∧
      (history.acknowledge conn rid).saved k = history.saved k ∧
      (history.acknowledge conn rid).routed k = history.routed k ∧
      (history.acknowledge conn rid).terminals k = history.terminals k ∧
      (history.acknowledge conn rid).closed k = history.closed k ∧
      (history.acknowledge conn rid).purged k = history.purged k := by
  simp [acknowledge, Function.update_of_ne (Nat.ne_of_lt h)]

theorem terminals_terminal_self (history : UseHistory) (k : Nat) :
    (history.terminal k).terminals k = history.terminals k + 1 :=
  Function.update_self ..

theorem terminals_terminal_ne (history : UseHistory) {j k : Nat} (h : j ≠ k) :
    (history.terminal k).terminals j = history.terminals j :=
  Function.update_of_ne h ..

def purge (history : UseHistory) (k : Nat) : UseHistory :=
  { history with purged := Function.update history.purged k true }

def close (history : UseHistory) (conn : Conn) : UseHistory :=
  { history with closed := fun k => history.closed k || decide (history.conn k = conn) }

end UseHistory

/-! ## Program counters -/

/-- A connection copied out of the request table, with the request whose row it stood in. -/
structure Held where
  conn : Conn
  use : Nat

/-- What `client_service_route` saves. -/
structure ProxyRequest where
  rid : Rid
  proxyName : ProxyName
  servicePayload : String
  timeout : Time

inductive ConnPc
  | ready
  | testing (rid : Rid)
  | dumping (rid dumpRid : Rid) (start size : Int)
  | requestSetting (req : ProxyRequest) (use : Nat)
  | connectionSetting (req : ProxyRequest) (use : Nat)
  | serviceSetting (req : ProxyRequest) (use : Nat)
  | proxynameSetting (req : ProxyRequest) (use : Nat)
  | closing
  | naming (rid : Rid) (rest : List Rid) (grouped : ClientProxynameTable)
  | requestRemoving (rid : Rid) (rest : List Rid) (grouped : ClientProxynameTable)
  | serviceRemoving (rid : Rid) (rest : List Rid) (grouped : ClientProxynameTable)
  | proxynamesCopying (rid : Rid) (rest : List Rid) (grouped : ClientProxynameTable)
  | proxynameDropping (rid : Rid) (names : List ProxyName) (rest : List Rid)
      (grouped : ClientProxynameTable)
  | targeting (grouped : ClientProxynameTable)
  | dropServiceSetting (targets : List (ProxyName × Rid)) (drawn : Nat)
  | dropProxynameSetting (proxyName : ProxyName) (rid : Rid) (targets : List (ProxyName × Rid))
      (drawn : Nat)
  | connectionRemoving
  | closed

/-- The arguments that every reply of one answer shares. -/
structure SubscribeJob where
  proxyName : ProxyName
  headers : CJson
  payload : Option CJson
  removeRequest : Bool

inductive SubscribePc
  | ready
  | purgeTaking (rid : Rid) (job : SubscribeJob) (items : List CJson)
  | purgeConnectionDropping (rid : Rid) (held : Held) (job : SubscribeJob) (items : List CJson)
  | purgeProxynamesCopying (rid : Rid) (job : SubscribeJob) (items : List CJson)
  | purgeProxynameDropping (rid : Rid) (names : List ProxyName) (job : SubscribeJob) (items : List CJson)
  | purgeServiceRemoving (rid : Rid) (job : SubscribeJob) (items : List CJson)
  | replying (job : SubscribeJob) (items : List CJson)
  | connectionDropping (rid : Rid) (held : Held) (job : SubscribeJob) (items : List CJson)
  | proxynameDropping (rid : Rid) (found : Option Held) (job : SubscribeJob) (items : List CJson)
  | serviceRemoving (rid : Rid) (found : Option Held) (job : SubscribeJob) (items : List CJson)
  | writing (rid : Rid) (found : Option Held) (job : SubscribeJob) (items : List CJson)

inductive TimeoutPc
  | ready
  | passing (rids : List Rid)
  | noticing (rid : Rid) (found : Option Held) (rest : List Rid)
  | requestRemoving (rid : Rid) (found : Option Held) (rest : List Rid)
  | connectionDropping (rid : Rid) (found : Option Held) (rest : List Rid)
  | serviceRemoving (rid : Rid) (rest : List Rid)
  | proxynamesCopying (rid : Rid) (rest : List Rid)
  | proxynameDropping (rid : Rid) (names : List ProxyName) (rest : List Rid)

/-- A caller of `client_proxy_alive_notification`, grouping the ids by connection in a local table. -/
inductive NotifyPc
  | ready
  | collecting (proxyName : ProxyName) (started : Bool) (rids : List Rid)
      (grouped : ClientConnectionTable)
  | writing (proxyName : ProxyName) (started : Bool) (targets : List (Conn × List Rid))

structure StoreThreads where
  dispatcher : Dispatcher
  conns : Conn → ConnPc
  subscribers : Nat → SubscribePc
  timeout : TimeoutPc
  notifiers : Nat → NotifyPc
  history : UseHistory

/-- What one step reads besides the state: the JSON library, the clock and the path of the route
context, what the close handler reads, and the order of an iteration. -/
structure StepContext extends RouteContext where
  drop : DropConnContext
  nameOrder : Traversal ProxyName
  ridOrder : Traversal Rid
  connOrder : Traversal Conn

/-- An action starts a thread on a call, or takes the next step of the call it is in. -/
inductive StoreAction
  | receive (conn : Conn) (uri data : String)
  | close (conn : Conn)
  | conn (conn : Conn)
  | answer (n : Nat) (proxyName : ProxyName) (posted : SubscribeAnswer)
  | subscriber (n : Nat)
  | pass
  | timeout
  | notify (n : Nat) (proxyName : ProxyName) (started : Bool)
  | notifier (n : Nat)

/-- The action is one of the web server's. -/
def StoreAction.isWorker : StoreAction → Bool
  | .receive _ _ _ | .close _ | .conn _ => true
  | _ => false

structure StoreStep where
  ctx : StepContext
  action : StoreAction

/-- One turn of the loop of `client_proxyname_table_drop_all`; `none` when the loop is left. -/
def clientProxynameTableDropNext (table : ClientProxynameTable) (requestUuid : Rid) :
    List ProxyName → ClientProxynameTable × Option (List ProxyName)
  | [] => (table, none)
  | proxyName :: rest =>
      ((clientProxynameTableDrop table proxyName requestUuid).2,
        if (clientProxynameTableDrop table proxyName requestUuid).1 then none else some rest)

/-- The next turn of the first loop of `client_service_drop_conn`. -/
def ConnPc.afterDropped (rest : List Rid) (grouped : ClientProxynameTable) : ConnPc :=
  match rest with
  | [] => .targeting grouped
  | rid :: rest => .naming rid rest grouped

/-- What follows the lookup in `proxy_subscribe_reply`. -/
def SubscribePc.afterLookup (rid : Rid) (found : Option Held) (job : SubscribeJob) (items : List CJson) :
    SubscribePc :=
  if job.removeRequest then
    match found with
    | some held => .connectionDropping rid held job items
    | none => .proxynameDropping rid none job items
  else .writing rid found job items

def ConnPc.isReady : ConnPc → Bool
  | .ready => true
  | _ => false

def SubscribePc.isReady : SubscribePc → Bool
  | .ready => true
  | _ => false

def TimeoutPc.isReady : TimeoutPc → Bool
  | .ready => true
  | _ => false

def NotifyPc.isReady : NotifyPc → Bool
  | .ready => true
  | _ => false

def ConnPc.isClosed : ConnPc → Bool
  | .closed => true
  | _ => false

theorem ConnPc.isClosed_iff {pc : ConnPc} : pc.isClosed = true ↔ pc = .closed := by
  cases pc <;> simp [isClosed]

theorem ConnPc.isReady_iff {pc : ConnPc} : pc.isReady = true ↔ pc = .ready := by
  cases pc <;> simp [isReady]

theorem SubscribePc.isReady_iff {pc : SubscribePc} : pc.isReady = true ↔ pc = .ready := by
  cases pc <;> simp [isReady]

theorem TimeoutPc.isReady_iff {pc : TimeoutPc} : pc.isReady = true ↔ pc = .ready := by
  cases pc <;> simp [isReady]

def ConnPc.busy : ConnPc → Bool
  | .ready | .closed => false
  | _ => true

/-- A reply to an item without a request id faults. -/
def SubscribePc.busy : SubscribePc → Bool
  | .ready => false
  | .replying _ (item :: _) => item.valuestring.isSome
  | _ => true

def TimeoutPc.busy : TimeoutPc → Bool
  | .ready => false
  | _ => true

def NotifyPc.busy : NotifyPc → Bool
  | .ready => false
  | _ => true

namespace StoreThreads

def started : StoreThreads where
  dispatcher := Dispatcher.empty
  conns _ := .ready
  subscribers _ := .ready
  timeout := .ready
  notifiers _ := .ready
  history := .empty

variable (s : StoreThreads)

def requests : ClientRequestTable := s.dispatcher.store.requests

def connections : ClientConnectionTable := s.dispatcher.store.connections

def services : ClientServiceTable := s.dispatcher.store.services

def proxynames : ClientProxynameTable := s.dispatcher.store.proxynames

def setConn (conn : Conn) (pc : ConnPc) : StoreThreads :=
  { s with conns := Function.update s.conns conn pc }

def setSubscriber (n : Nat) (pc : SubscribePc) : StoreThreads :=
  { s with subscribers := Function.update s.subscribers n pc }

def setTimeout (pc : TimeoutPc) : StoreThreads := { s with timeout := pc }

def setNotifier (n : Nat) (pc : NotifyPc) : StoreThreads :=
  { s with notifiers := Function.update s.notifiers n pc }

def withDispatcher (d : Dispatcher) : StoreThreads := { s with dispatcher := d }

def withHistory (history : UseHistory) : StoreThreads := { s with history := history }

def withRequests (table : ClientRequestTable) : StoreThreads :=
  s.withDispatcher { s.dispatcher with store := { s.dispatcher.store with requests := table } }

def withConnections (table : ClientConnectionTable) : StoreThreads :=
  s.withDispatcher { s.dispatcher with store := { s.dispatcher.store with connections := table } }

def withServices (table : ClientServiceTable) : StoreThreads :=
  s.withDispatcher { s.dispatcher with store := { s.dispatcher.store with services := table } }

def withProxynames (table : ClientProxynameTable) : StoreThreads :=
  s.withDispatcher { s.dispatcher with store := { s.dispatcher.store with proxynames := table } }

@[simp] theorem setConn_self (conn : Conn) (pc : ConnPc) : (s.setConn conn pc).conns conn = pc :=
  Function.update_self ..

theorem setConn_ne {conn other : Conn} (h : other ≠ conn) (pc : ConnPc) :
    (s.setConn conn pc).conns other = s.conns other :=
  Function.update_of_ne h ..

@[simp] theorem setSubscriber_self (n : Nat) (pc : SubscribePc) :
    (s.setSubscriber n pc).subscribers n = pc :=
  Function.update_self ..

theorem setSubscriber_ne {n m : Nat} (h : m ≠ n) (pc : SubscribePc) :
    (s.setSubscriber n pc).subscribers m = s.subscribers m :=
  Function.update_of_ne h ..

@[simp] theorem setNotifier_self (n : Nat) (pc : NotifyPc) : (s.setNotifier n pc).notifiers n = pc :=
  Function.update_self ..

/-- What `client_request_table_get_conn` finds, with the request whose row it is. -/
def found (rid : Rid) : Option Held :=
  (s.requests.lookup rid).map fun row => ⟨row.conn, s.history.entry rid⟩

/-! ## The worker of a connection -/

/-- The message is acknowledged and its request about to be saved under the next number. -/
def acknowledge (ctx : RouteContext) (conn : Conn) (req : ProxyRequest) : StoreThreads :=
  ((s.withDispatcher (clientParsingStatusReply ctx.json s.dispatcher conn (some req.rid)
      .requestParseStatusAcknowledged)).withHistory (s.history.acknowledge conn req.rid)).setConn conn
    (.requestSetting req s.history.count)

/-- The first write of `client_service_route`. -/
def receive (ctx : RouteContext) (conn : Conn) (uri data : String) : StoreThreads :=
  if ctx.gonggoPath ≠ some uri then s
  else
    match ctx.json.parse data with
    | none => s
    | some root =>
        match clientServiceRouteVerdict root with
        | .refused rid status =>
            s.withDispatcher (clientParsingStatusReply ctx.json s.dispatcher conn rid status)
        | .test rid =>
            (s.withDispatcher (clientParsingStatusReply ctx.json s.dispatcher conn (some rid)
              .requestParseStatusAcknowledged)).setConn conn (.testing rid)
        | .responseDump rid dumpRid start size =>
            (s.withDispatcher (clientParsingStatusReply ctx.json s.dispatcher conn (some rid)
              .requestParseStatusAcknowledged)).setConn conn (.dumping rid dumpRid start size)
        | .proxyRequest rid proxyName serviceName payload timeout =>
            s.acknowledge ctx conn ⟨rid, proxyName,
              clientServiceTableServicePayloadCreate ctx.json.print serviceName payload, timeout⟩

def connEffect (ctx : StepContext) (conn : Conn) : StoreThreads :=
  match s.conns conn with
  | .ready | .closed => s
  | .testing rid =>
      (s.withDispatcher (gonggoTest ctx.toRouteContext s.dispatcher conn rid)).setConn conn .ready
  | .dumping rid dumpRid start size =>
      (s.withDispatcher (gonggoResponseDump ctx.toRouteContext s.dispatcher conn rid dumpRid start
        size)).setConn conn .ready
  | .requestSetting req k =>
      ((s.withRequests (clientRequestTableSet s.requests req.rid conn req.timeout ctx.now)).withHistory
        (s.history.save req.rid k)).setConn conn (.connectionSetting req k)
  | .connectionSetting req k =>
      (s.withConnections (clientConnectionTableSet s.connections conn req.rid)).setConn conn
        (.serviceSetting req k)
  | .serviceSetting req k =>
      (s.withServices (clientServiceTableSet s.services req.rid req.servicePayload)).setConn conn
        (.proxynameSetting req k)
  | .proxynameSetting req k =>
      ((s.withProxynames (clientProxynameTableSet s.proxynames req.proxyName req.rid)).withHistory
        (s.history.route k)).setConn conn .ready
  | .closing =>
      match clientConnectionTableRequestDup s.connections conn with
      | none => s.setConn conn .closed
      | some uuids => s.setConn conn (.afterDropped uuids HashTable.empty)
  | .naming rid rest grouped =>
      s.setConn conn (.requestRemoving rid rest
        (match clientProxynameTableProxyNameDup s.proxynames ctx.nameOrder rid with
          | some proxyName => clientProxynameTableSet grouped proxyName rid
          | none => grouped))
  | .requestRemoving rid rest grouped =>
      (s.withRequests (clientRequestTableRemove s.requests rid)).setConn conn
        (.serviceRemoving rid rest grouped)
  | .serviceRemoving rid rest grouped =>
      (s.withServices (clientServiceTableRemove s.services rid)).setConn conn
        (.proxynamesCopying rid rest grouped)
  | .proxynamesCopying rid rest grouped =>
      s.setConn conn (.proxynameDropping rid (ctx.nameOrder.visit s.proxynames.keys) rest grouped)
  | .proxynameDropping rid names rest grouped =>
      (s.withProxynames (clientProxynameTableDropNext s.proxynames rid names).1).setConn conn
        (match (clientProxynameTableDropNext s.proxynames rid names).2 with
          | some names => .proxynameDropping rid names rest grouped
          | none => .afterDropped rest grouped)
  | .targeting grouped => s.setConn conn (.dropServiceSetting (dropConnTargets ctx.drop grouped) 0)
  | .dropServiceSetting [] _ => s.setConn conn .connectionRemoving
  | .dropServiceSetting ((proxyName, requestUuid) :: targets) drawn =>
      (s.withServices (clientServiceTableSet s.services (ctx.drop.uuidGenerate drawn)
        (clientServiceTableServicePayloadCreate ctx.drop.print gonggoServiceRequestDrop
          (some (requestDropPayload requestUuid))))).setConn conn
        (.dropProxynameSetting proxyName (ctx.drop.uuidGenerate drawn) targets (drawn + 1))
  | .dropProxynameSetting proxyName rid targets drawn =>
      (s.withProxynames (clientProxynameTableSet s.proxynames proxyName rid)).setConn conn
        (.dropServiceSetting targets drawn)
  | .connectionRemoving =>
      (s.withConnections (clientConnectionTableRemove s.connections conn)).setConn conn .closed

/-! ## A subscribe thread -/

/-- `proxy_subscribe_exchange` up to its first table operation. -/
def answer (json : JsonLibrary) (n : Nat) (proxyName : ProxyName) (posted : SubscribeAnswer) :
    StoreThreads :=
  match parsedAnswer json posted with
  | none => s
  | some (items, headers, payload) =>
      let cleared := clearedRid headers payload
      let job : SubscribeJob :=
        ⟨proxyName, headers, if cleared.isSome then none else payload, posted.removeRequest⟩
      s.setSubscriber n (match cleared.join with
        | some rid => .purgeTaking rid job items
        | none => .replying job items)

/-- The history once the found request is purged. -/
def purged (found : Option Held) : UseHistory :=
  match found with
  | some held => s.history.purge held.use
  | none => s.history

/-- The history once a terminal message is written to the found connection. -/
def ended (found : Option Held) : UseHistory :=
  match found with
  | some held => s.history.terminal held.use
  | none => s.history

def subscriberEffect (ctx : StepContext) (n : Nat) : StoreThreads :=
  match s.subscribers n with
  | .ready => s
  | .purgeTaking rid job items =>
      ((s.withRequests (clientRequestTableGetConn s.requests rid false true ctx.now).2).withHistory
        (s.purged (s.found rid))).setSubscriber n
        (match s.found rid with
          | some held => .purgeConnectionDropping rid held job items
          | none => .purgeProxynamesCopying rid job items)
  | .purgeConnectionDropping rid held job items =>
      (s.withConnections (clientConnectionTableDrop s.connections held.conn rid)).setSubscriber n
        (.purgeProxynamesCopying rid job items)
  | .purgeProxynamesCopying rid job items =>
      s.setSubscriber n
        (.purgeProxynameDropping rid (ctx.nameOrder.visit s.proxynames.keys) job items)
  | .purgeProxynameDropping rid names job items =>
      (s.withProxynames (clientProxynameTableDropNext s.proxynames rid names).1).setSubscriber n
        (match (clientProxynameTableDropNext s.proxynames rid names).2 with
          | some names => .purgeProxynameDropping rid names job items
          | none => .purgeServiceRemoving rid job items)
  | .purgeServiceRemoving rid job items =>
      (s.withServices (clientServiceTableRemove s.services rid)).setSubscriber n (.replying job items)
  | .replying _ [] => s.setSubscriber n .ready
  | .replying job (item :: items) =>
      match item.valuestring with
      | none => s
      | some rid =>
          (s.withRequests (clientRequestTableGetConn s.requests rid true job.removeRequest
            ctx.now).2).setSubscriber n
            (.afterLookup rid (s.found rid) job items)
  | .connectionDropping rid held job items =>
      (s.withConnections (clientConnectionTableDrop s.connections held.conn rid)).setSubscriber n
        (.proxynameDropping rid (some held) job items)
  | .proxynameDropping rid found job items =>
      (s.withProxynames (clientProxynameTableDrop s.proxynames job.proxyName rid).2).setSubscriber n
        (.serviceRemoving rid found job items)
  | .serviceRemoving rid found job items =>
      (s.withServices (clientServiceTableRemove s.services rid)).setSubscriber n
        (.writing rid found job items)
  | .writing rid found job items =>
      ((s.withDispatcher (clientServiceReply ctx.json s.dispatcher (found.map Held.conn) rid job.headers
        job.payload true)).withHistory
        (if job.removeRequest then s.ended found else s.history)).setSubscriber n (.replying job items)

/-! ## The client timeout thread -/

def pass (ctx : StepContext) : StoreThreads :=
  s.setTimeout (.passing (clientRequestTableExpired s.requests ctx.ridOrder ctx.now))

def timeoutEffect (ctx : StepContext) : StoreThreads :=
  match s.timeout with
  | .ready => s
  | .passing [] => s.setTimeout .ready
  | .passing (rid :: rest) => s.setTimeout (.noticing rid (s.found rid) rest)
  | .noticing rid found rest =>
      ((s.withDispatcher (clientServiceExpiredReply ctx.json s.dispatcher (found.map Held.conn) rid
        true)).withHistory (s.ended found)).setTimeout (.requestRemoving rid found rest)
  | .requestRemoving rid found rest =>
      (s.withRequests (clientRequestTableRemove s.requests rid)).setTimeout
        (.connectionDropping rid found rest)
  | .connectionDropping rid found rest =>
      (s.withConnections (dropFromConnection s.connections (found.map Held.conn) rid)).setTimeout
        (.serviceRemoving rid rest)
  | .serviceRemoving rid rest =>
      (s.withServices (clientServiceTableRemove s.services rid)).setTimeout (.proxynamesCopying rid rest)
  | .proxynamesCopying rid rest =>
      s.setTimeout (.proxynameDropping rid (ctx.nameOrder.visit s.proxynames.keys) rest)
  | .proxynameDropping rid names rest =>
      (s.withProxynames (clientProxynameTableDropNext s.proxynames rid names).1).setTimeout
        (match (clientProxynameTableDropNext s.proxynames rid names).2 with
          | some names => .proxynameDropping rid names rest
          | none => .passing rest)

/-! ## The announcement of a proxy -/

def notify (n : Nat) (proxyName : ProxyName) (started : Bool) : StoreThreads :=
  s.setNotifier n (.collecting proxyName started
    ((clientProxynameTableRequestDup s.proxynames proxyName false).getD []) HashTable.empty)

def notifierEffect (ctx : StepContext) (n : Nat) : StoreThreads :=
  match s.notifiers n with
  | .ready => s
  | .collecting proxyName started (rid :: rest) grouped =>
      s.setNotifier n (.collecting proxyName started rest
        (match s.found rid with
          | some held => clientConnectionTableSet grouped held.conn rid
          | none => grouped))
  | .collecting proxyName started [] grouped =>
      s.setNotifier n (.writing proxyName started
        ((ctx.connOrder.visit grouped.keys).filterMap fun conn =>
          (grouped.lookup conn).map fun arr => (conn, arr.uuids)))
  | .writing _ _ [] => s.setNotifier n .ready
  | .writing proxyName started ((conn, rids) :: rest) =>
      (s.withDispatcher (clientProxyAliveNotificationDo ctx.json s.dispatcher conn proxyName rids
        started)).setNotifier n (.writing proxyName started rest)

end StoreThreads

namespace StoreStep

def enabled (s : StoreThreads) (e : StoreStep) : Bool :=
  match e.action with
  | .receive conn _ _ | .close conn => (s.conns conn).isReady
  | .conn conn => (s.conns conn).busy
  | .answer n _ _ => (s.subscribers n).isReady
  | .subscriber n => (s.subscribers n).busy
  | .pass => s.timeout.isReady
  | .timeout => s.timeout.busy
  | .notify n _ _ => (s.notifiers n).isReady
  | .notifier n => (s.notifiers n).busy

def guard (s : StoreThreads) (e : StoreStep) : Prop := e.enabled s = true

instance decidableGuard (s : StoreThreads) (e : StoreStep) : Decidable (e.guard s) :=
  inferInstanceAs (Decidable (_ = true))

def effect (s : StoreThreads) (e : StoreStep) : StoreThreads :=
  match e.action with
  | .receive conn uri data => s.receive e.ctx.toRouteContext conn uri data
  | .close conn => (s.withHistory (s.history.close conn)).setConn conn .closing
  | .conn conn => s.connEffect e.ctx conn
  | .answer n proxyName posted => s.answer e.ctx.json n proxyName posted
  | .subscriber n => s.subscriberEffect e.ctx n
  | .pass => s.pass e.ctx
  | .timeout => s.timeoutEffect e.ctx
  | .notify n proxyName started => s.notify n proxyName started
  | .notifier n => s.notifierEffect e.ctx n

end StoreStep

def storeThreadsSystem : TransitionSystem StoreThreads StoreStep where
  init s := s = .started
  guard := StoreStep.guard
  effect := StoreStep.effect

instance (s : StoreThreads) (e : StoreStep) : Decidable (storeThreadsSystem.guard s e) :=
  StoreStep.decidableGuard s e

/-! ## A sample request on its way through the threads -/

/-- A step at the given time, in a run about one request. -/
def sampleStep (now : Time) (action : StoreAction) : StoreStep where
  ctx :=
    { toRouteContext := sampleRouteContext (sampleRequest "r" "weather" "today") now
      drop := sampleDropConnContext "u"
      nameOrder := .inOrder
      ridOrder := .inOrder
      connOrder := .inOrder }
  action := action

/-- A client sends the request, and its route steps are done. -/
def sampleRouteSteps (conn : Conn) (now : Time) : List StoreStep :=
  [.receive conn "/gonggo" (printUnformatted (sampleRequest "r" "weather" "today")),
    .conn conn, .conn conn, .conn conn, .conn conn].map (sampleStep now)

end Gonggo
