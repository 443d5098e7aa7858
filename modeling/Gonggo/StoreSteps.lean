import Gonggo.ClientIsolation
import Gonggo.TableAction
import Gonggo.TerminalOutcomes

/-! # What a step of the store threads can do

A step accesses the envelopes and the lists of the proxies once at most. A worker works on the
request that it received last, and its close handler on the ids that the connection table lists.
-/

namespace Gonggo

/-! ## Accesses to the tables -/

/-- One turn of the loop of `client_proxyname_table_drop_all`. -/
def TableAction.dropNext (rid : Rid) : List ProxyName → TableAction
  | [] => .none
  | proxyName :: _ => .unlist proxyName rid

def ConnPc.tableAction (ctx : StepContext) : ConnPc → TableAction
  | .serviceSetting req _ => .store req.rid req.servicePayload
  | .proxynameSetting req _ => .list req.proxyName req.rid
  | .serviceRemoving rid _ _ => .unstore rid
  | .proxynameDropping rid names _ _ => .dropNext rid names
  | .dropServiceSetting ((_, requestUuid) :: _) drawn =>
      .store (ctx.drop.uuidGenerate drawn) (requestDropText ctx.drop.print requestUuid)
  | .dropProxynameSetting proxyName rid _ _ => .list proxyName rid
  | _ => .none

def SubscribePc.tableAction : SubscribePc → TableAction
  | .purgeProxynameDropping rid names _ _ => .dropNext rid names
  | .purgeServiceRemoving rid _ _ | .serviceRemoving rid _ _ _ => .unstore rid
  | .proxynameDropping rid _ job _ => .unlist job.proxyName rid
  | _ => .none

def TimeoutPc.tableAction : TimeoutPc → TableAction
  | .serviceRemoving rid _ => .unstore rid
  | .proxynameDropping rid names _ => .dropNext rid names
  | _ => .none

theorem SubscribePc.takesOut (pc : SubscribePc) :
    pc.tableAction.stores = [] ∧ pc.tableAction.inserts = [] := by
  cases pc with
  | purgeProxynameDropping rid names => cases names <;> exact ⟨rfl, rfl⟩
  | _ => exact ⟨rfl, rfl⟩

theorem TimeoutPc.takesOut (pc : TimeoutPc) :
    pc.tableAction.stores = [] ∧ pc.tableAction.inserts = [] := by
  cases pc with
  | proxynameDropping rid names => cases names <;> exact ⟨rfl, rfl⟩
  | _ => exact ⟨rfl, rfl⟩

def StoreStep.tableAction (s : StoreThreads) (e : StoreStep) : TableAction :=
  match e.action with
  | .conn conn => (s.conns conn).tableAction e.ctx
  | .subscriber n => (s.subscribers n).tableAction
  | .timeout => s.timeout.tableAction
  | _ => .none

namespace StoreThreads

variable {s : StoreThreads} {e : StoreStep} {conn : Conn} {proxyName : ProxyName} {rid : Rid}

/-- The tables of `s'` are those of `s` after one access. -/
def ActsOnTables (s s' : StoreThreads) (action : TableAction) : Prop :=
  s'.services = action.services s.services ∧
    ∀ proxyName, s'.proxynames = action.proxynames proxyName s.proxynames

theorem ActsOnTables.same {s s' : StoreThreads} (hServices : s'.services = s.services)
    (hProxynames : s'.proxynames = s.proxynames) : s.ActsOnTables s' .none :=
  ⟨hServices, fun _ => hProxynames⟩

theorem actsOnTables_of_store {s s' : StoreThreads} (h : s'.dispatcher.store = s.dispatcher.store) :
    s.ActsOnTables s' .none :=
  .same (congrArg RequestStore.services h) (congrArg RequestStore.proxynames h)

theorem actsOnTables_dropNext {s' : StoreThreads} (names : List ProxyName)
    (hServices : s'.services = s.services)
    (hProxynames : s'.proxynames = (clientProxynameTableDropNext s.proxynames rid names).1) :
    s.ActsOnTables s' (.dropNext rid names) := by
  cases names with
  | nil => exact .same hServices hProxynames
  | cons proxyName names => exact ⟨hServices, fun _ => hProxynames⟩

theorem actsOnTables_receive (ctx : RouteContext) (worker : Conn) (uri data : String) :
    s.ActsOnTables (s.receive ctx worker uri data) .none := by
  unfold receive
  split
  · exact .same rfl rfl
  · cases ctx.json.parse data with
    | none => exact .same rfl rfl
    | some root =>
      cases hVerdict : clientServiceRouteVerdict root with
      | refused | test | responseDump | proxyRequest =>
        simp only [hVerdict]
        exact actsOnTables_of_store (store_clientParsingStatusReply ..)

theorem actsOnTables_connEffect (ctx : StepContext) (worker : Conn) :
    s.ActsOnTables (s.connEffect ctx worker) ((s.conns worker).tableAction ctx) := by
  cases hPc : s.conns worker with
  | testing =>
    simp only [connEffect, hPc]
    exact actsOnTables_of_store (store_gonggoTest ..)
  | dumping =>
    simp only [connEffect, hPc]
    exact actsOnTables_of_store (store_gonggoResponseDump ..)
  | serviceSetting | proxynameSetting | serviceRemoving | dropProxynameSetting =>
    simp only [connEffect, hPc]
    exact ⟨rfl, fun _ => rfl⟩
  | proxynameDropping rid names rest grouped =>
    simp only [connEffect, hPc]
    exact actsOnTables_dropNext names rfl rfl
  | dropServiceSetting targets drawn =>
    cases targets with
    | nil =>
      simp only [connEffect, hPc]
      exact .same rfl rfl
    | cons target targets =>
      simp only [connEffect, hPc]
      exact ⟨rfl, fun _ => rfl⟩
  | closing =>
    simp only [connEffect, hPc]
    split <;> exact .same rfl rfl
  | ready | closed | requestSetting | connectionSetting | naming | requestRemoving | proxynamesCopying
  | targeting | connectionRemoving =>
    simp only [connEffect, hPc]
    exact .same rfl rfl

theorem actsOnTables_subscriberEffect (ctx : StepContext) (n : Nat) :
    s.ActsOnTables (s.subscriberEffect ctx n) (s.subscribers n).tableAction := by
  cases hPc : s.subscribers n with
  | purgeProxynameDropping rid names job items =>
    simp only [subscriberEffect, hPc]
    exact actsOnTables_dropNext names rfl rfl
  | purgeServiceRemoving | proxynameDropping | serviceRemoving =>
    simp only [subscriberEffect, hPc]
    exact ⟨rfl, fun _ => rfl⟩
  | replying job items =>
    cases items with
    | nil =>
      simp only [subscriberEffect, hPc]
      exact .same rfl rfl
    | cons item items =>
      simp only [subscriberEffect, hPc]
      split <;> exact .same rfl rfl
  | writing =>
    simp only [subscriberEffect, hPc]
    exact actsOnTables_of_store (store_clientServiceReply ..)
  | ready | purgeTaking | purgeConnectionDropping | purgeProxynamesCopying | connectionDropping =>
    simp only [subscriberEffect, hPc]
    exact .same rfl rfl

theorem actsOnTables_timeoutEffect (ctx : StepContext) :
    s.ActsOnTables (s.timeoutEffect ctx) s.timeout.tableAction := by
  cases hPc : s.timeout with
  | passing rids =>
    cases rids with
    | nil | cons =>
      simp only [timeoutEffect, hPc]
      exact .same rfl rfl
  | noticing =>
    simp only [timeoutEffect, hPc]
    exact actsOnTables_of_store (store_clientServiceExpiredReply ..)
  | serviceRemoving =>
    simp only [timeoutEffect, hPc]
    exact ⟨rfl, fun _ => rfl⟩
  | proxynameDropping rid names rest =>
    simp only [timeoutEffect, hPc]
    exact actsOnTables_dropNext names rfl rfl
  | ready | requestRemoving | connectionDropping | proxynamesCopying =>
    simp only [timeoutEffect, hPc]
    exact .same rfl rfl

theorem actsOnTables_notifierEffect (ctx : StepContext) (n : Nat) :
    s.ActsOnTables (s.notifierEffect ctx n) .none := by
  unfold notifierEffect
  split <;> exact .same rfl rfl

theorem actsOnTables_effect (s : StoreThreads) (e : StoreStep) :
    s.ActsOnTables (e.effect s) (e.tableAction s) := by
  obtain ⟨ctx, action⟩ := e
  cases action with
  | receive worker uri data => exact actsOnTables_receive ctx.toRouteContext worker uri data
  | conn worker => exact actsOnTables_connEffect ctx worker
  | subscriber n => exact actsOnTables_subscriberEffect ctx n
  | timeout => exact actsOnTables_timeoutEffect ctx
  | notifier n => exact actsOnTables_notifierEffect ctx n
  | answer n proxyName posted =>
    simp only [StoreStep.effect, answer]
    split <;> exact .same rfl rfl
  | close | pass | notify => exact .same rfl rfl

/-- What a step stores is the envelope of an acknowledged request or of a drop request. -/
theorem worker_of_stores {text : String} (h : (rid, text) ∈ (e.tableAction s).stores) :
    ∃ worker, e.action = .conn worker ∧
      ((∃ req k, s.conns worker = .serviceSetting req k ∧ rid = req.rid ∧ text = req.servicePayload) ∨
        ∃ proxyName requestUuid targets drawn,
          s.conns worker = .dropServiceSetting ((proxyName, requestUuid) :: targets) drawn ∧
            rid = e.ctx.drop.uuidGenerate drawn ∧ text = requestDropText e.ctx.drop.print requestUuid) := by
  obtain ⟨ctx, action⟩ := e
  cases action with
  | conn worker =>
    refine ⟨worker, rfl, ?_⟩
    simp only [StoreStep.tableAction] at h
    cases hPc : s.conns worker with
    | serviceSetting req k =>
      rw [hPc] at h
      obtain ⟨rfl, rfl⟩ := Prod.mk.inj (List.mem_singleton.mp h)
      exact .inl ⟨req, k, rfl, rfl, rfl⟩
    | dropServiceSetting targets drawn =>
      rw [hPc] at h
      cases targets with
      | nil => cases h
      | cons target targets =>
        obtain ⟨rfl, rfl⟩ := Prod.mk.inj (List.mem_singleton.mp h)
        exact .inr ⟨target.1, target.2, targets, drawn, rfl, rfl, rfl⟩
    | proxynameDropping rid' names =>
      rw [hPc] at h
      cases names <;> cases h
    | _ =>
      rw [hPc] at h
      cases h
  | subscriber n =>
    rw [StoreStep.tableAction, (SubscribePc.takesOut _).1] at h
    cases h
  | timeout =>
    rw [StoreStep.tableAction, (TimeoutPc.takesOut _).1] at h
    cases h
  | _ => cases h

theorem worker_of_inserts (h : (proxyName, rid) ∈ (e.tableAction s).inserts) :
    ∃ worker, e.action = .conn worker ∧
      ((∃ req k, s.conns worker = .proxynameSetting req k ∧ proxyName = req.proxyName ∧ rid = req.rid) ∨
        ∃ targets drawn, s.conns worker = .dropProxynameSetting proxyName rid targets drawn) := by
  obtain ⟨ctx, action⟩ := e
  cases action with
  | conn worker =>
    refine ⟨worker, rfl, ?_⟩
    simp only [StoreStep.tableAction] at h
    cases hPc : s.conns worker with
    | proxynameSetting req k =>
      rw [hPc] at h
      obtain ⟨rfl, rfl⟩ := Prod.mk.inj (List.mem_singleton.mp h)
      exact .inl ⟨req, k, rfl, rfl, rfl⟩
    | dropProxynameSetting name named targets drawn =>
      rw [hPc] at h
      obtain ⟨rfl, rfl⟩ := Prod.mk.inj (List.mem_singleton.mp h)
      exact .inr ⟨targets, drawn, rfl⟩
    | dropServiceSetting targets =>
      rw [hPc] at h
      cases targets <;> cases h
    | proxynameDropping rid' names =>
      rw [hPc] at h
      cases names <;> cases h
    | _ =>
      rw [hPc] at h
      cases h
  | subscriber n =>
    rw [StoreStep.tableAction, (SubscribePc.takesOut _).2] at h
    cases h
  | timeout =>
    rw [StoreStep.tableAction, (TimeoutPc.takesOut _).2] at h
    cases h
  | _ => cases h

end StoreThreads

/-! ## Workers -/

/-- The request that the worker is saving, with its number. -/
def ConnPc.request : ConnPc → Option (ProxyRequest × Nat)
  | .requestSetting req k | .connectionSetting req k | .serviceSetting req k | .proxynameSetting req k =>
      some (req, k)
  | _ => none

/-- The id that the worker is to list, with the proxy under which it lists it. -/
def ConnPc.listing : ConnPc → Option (ProxyName × Rid)
  | .requestSetting req _ | .connectionSetting req _ | .serviceSetting req _ | .proxynameSetting req _ =>
      some (req.proxyName, req.rid)
  | .dropProxynameSetting proxyName rid _ _ => some (proxyName, rid)
  | _ => none

theorem ConnPc.listing_iff {pc : ConnPc} {proxyName : ProxyName} {rid : Rid} :
    pc.listing = some (proxyName, rid) ↔
      (∃ req k, pc.request = some (req, k) ∧ proxyName = req.proxyName ∧ rid = req.rid) ∨
        ∃ targets drawn, pc = .dropProxynameSetting proxyName rid targets drawn := by
  cases pc <;> simp [listing, request, eq_comm]

/-- The close handler still deals with the id. -/
def ConnPc.Drops (dropped : Rid) : ConnPc → Prop
  | .naming rid rest grouped | .requestRemoving rid rest grouped | .serviceRemoving rid rest grouped
  | .proxynamesCopying rid rest grouped | .proxynameDropping rid _ rest grouped =>
      dropped = rid ∨ dropped ∈ rest ∨ ∃ proxyName, ListedUnder grouped proxyName dropped
  | .targeting grouped => ∃ proxyName, ListedUnder grouped proxyName dropped
  | .dropServiceSetting targets _ | .dropProxynameSetting _ _ targets _ =>
      ∃ proxyName, (proxyName, dropped) ∈ targets
  | _ => False

theorem ConnPc.drops_afterDropped {dropped : Rid} {rest : List Rid} {grouped : ClientProxynameTable}
    (h : (ConnPc.afterDropped rest grouped).Drops dropped) :
    dropped ∈ rest ∨ ∃ proxyName, ListedUnder grouped proxyName dropped := by
  cases rest with
  | nil => exact .inr h
  | cons rid rest =>
    rcases h with rfl | h
    · exact .inl List.mem_cons_self
    · exact h.imp_left (List.mem_cons_of_mem _)

theorem mem_dropConnTargets {ctx : DropConnContext} {grouped : ClientProxynameTable}
    {proxyName : ProxyName} {rid : Rid} (h : (proxyName, rid) ∈ dropConnTargets ctx grouped) :
    ListedUnder grouped proxyName rid := by
  obtain ⟨name, -, hMem⟩ := List.mem_flatMap.mp h
  split at hMem
  · rename_i value hValue
    obtain ⟨listed, hListed, hEq⟩ := List.mem_map.mp hMem
    cases hEq
    exact (listedUnder_of_lookup hValue _).mpr hListed
  · cases hMem

/-- The worker that the action moves. -/
def StoreAction.worker : StoreAction → Option Conn
  | .receive worker _ _ | .close worker => some worker
  | .conn worker => some worker
  | _ => none

/-- The worker takes up a message that it acknowledges as the request of a service of a proxy. -/
def StoreStep.Receives (e : StoreStep) (conn : Conn) (req : ProxyRequest) : Prop :=
  ∃ uri data root serviceName payload, e.action = .receive conn uri data ∧
    e.ctx.gonggoPath = some uri ∧ e.ctx.json.parse data = some root ∧
    clientServiceRouteVerdict root = .proxyRequest req.rid req.proxyName serviceName payload req.timeout ∧
    req.servicePayload = clientServiceTableServicePayloadCreate e.ctx.json.print serviceName payload

/-- The same requests are acknowledged, and closed ones stay closed. -/
structure UseHistory.Kept (history history' : UseHistory) : Prop where
  count : history'.count = history.count
  conn : history'.conn = history.conn
  rid : history'.rid = history.rid
  closed : ∀ k, history.closed k = true → history'.closed k = true

theorem UseHistory.Kept.refl (history : UseHistory) : history.Kept history := ⟨rfl, rfl, rfl, fun _ => id⟩

namespace StoreThreads

variable {s : StoreThreads} {e : StoreStep} {conn : Conn} {proxyName : ProxyName} {rid : Rid}

theorem kept_purged (s : StoreThreads) (found : Option Held) : s.history.Kept (s.purged found) := by
  cases found <;> exact ⟨rfl, rfl, rfl, fun _ => id⟩

theorem kept_ended (s : StoreThreads) (found : Option Held) : s.history.Kept (s.ended found) := by
  cases found <;> exact ⟨rfl, rfl, rfl, fun _ => id⟩

/-- What the threads beside the workers do to what the workers read. -/
structure Aside (s s' : StoreThreads) : Prop where
  conns : s'.conns = s.conns
  history : s.history.Kept s'.history
  connections : ∀ conn rid, ListedIn s'.connections conn rid → ListedIn s.connections conn rid

theorem Aside.same {s s' : StoreThreads} (hConns : s'.conns = s.conns)
    (hHistory : s.history.Kept s'.history) (hConnections : s'.connections = s.connections) :
    s.Aside s' :=
  ⟨hConns, hHistory, fun conn rid h => by rwa [hConnections] at h⟩

theorem Aside.of_store {s s' : StoreThreads} (hConns : s'.conns = s.conns)
    (hHistory : s.history.Kept s'.history) (hStore : s'.dispatcher.store = s.dispatcher.store) :
    s.Aside s' :=
  .same hConns hHistory (congrArg RequestStore.connections hStore)

theorem aside_subscriberEffect (ctx : StepContext) (n : Nat) : s.Aside (s.subscriberEffect ctx n) := by
  cases hPc : s.subscribers n with
  | purgeTaking rid job items =>
    simp only [subscriberEffect, hPc]
    exact .same rfl (s.kept_purged _) rfl
  | purgeConnectionDropping rid held job items | connectionDropping rid held job items =>
    simp only [subscriberEffect, hPc]
    exact ⟨rfl, .refl _, fun _ _ h => ((listedIn_clientConnectionTableDrop ..).mp h).1⟩
  | replying job items =>
    cases items with
    | nil =>
      simp only [subscriberEffect, hPc]
      exact .same rfl (.refl _) rfl
    | cons item items =>
      simp only [subscriberEffect, hPc]
      split <;> exact .same rfl (.refl _) rfl
  | writing rid found job items =>
    simp only [subscriberEffect, hPc]
    refine .of_store rfl ?_ (store_clientServiceReply ..)
    cases job.removeRequest with
    | true => exact s.kept_ended found
    | false => exact .refl _
  | ready | purgeProxynamesCopying | purgeProxynameDropping | purgeServiceRemoving | proxynameDropping
  | serviceRemoving =>
    simp only [subscriberEffect, hPc]
    exact .same rfl (.refl _) rfl

theorem aside_timeoutEffect (ctx : StepContext) : s.Aside (s.timeoutEffect ctx) := by
  cases hPc : s.timeout with
  | passing rids =>
    cases rids with
    | nil | cons =>
      simp only [timeoutEffect, hPc]
      exact .same rfl (.refl _) rfl
  | noticing rid found rest =>
    simp only [timeoutEffect, hPc]
    exact .of_store rfl (s.kept_ended found) (store_clientServiceExpiredReply ..)
  | connectionDropping rid found rest =>
    simp only [timeoutEffect, hPc]
    exact ⟨rfl, .refl _, fun _ _ => listedIn_of_dropFromConnection⟩
  | ready | requestRemoving | serviceRemoving | proxynamesCopying | proxynameDropping =>
    simp only [timeoutEffect, hPc]
    exact .same rfl (.refl _) rfl

theorem aside_effect (h : e.action.worker = none) : s.Aside (e.effect s) := by
  obtain ⟨ctx, action⟩ := e
  cases action with
  | receive | close | conn => cases h
  | answer n proxyName posted =>
    simp only [StoreStep.effect, answer]
    split <;> exact .same rfl (.refl _) rfl
  | subscriber n => exact aside_subscriberEffect ctx n
  | pass | notify => exact .same rfl (.refl _) rfl
  | timeout => exact aside_timeoutEffect ctx
  | notifier n =>
    simp only [StoreStep.effect, notifierEffect]
    split <;> exact .same rfl (.refl _) rfl

/-- What a worker does beside moving on. -/
structure Works (s s' : StoreThreads) (worker : Conn) : Prop where
  conns : ∀ conn, conn ≠ worker → s'.conns conn = s.conns conn
  request : ∀ req k, (s'.conns worker).request = some (req, k) →
    (s.conns worker).request = some (req, k)
  drops : ∀ rid, (s'.conns worker).Drops rid → (s.conns worker).Drops rid ∨ ListedIn s.connections worker rid
  closing : (s'.conns worker).isClosing = true → (s.conns worker).isClosing = true
  history : s.history.Kept s'.history
  connections : ∀ conn rid, ListedIn s'.connections conn rid → ListedIn s.connections conn rid ∨
    conn = worker ∧ ∃ req k, (s.conns worker).request = some (req, k) ∧ rid = req.rid

theorem Works.of_pc {s s' : StoreThreads} {worker : Conn} {pc : ConnPc}
    (hConns : s'.conns = Function.update s.conns worker pc)
    (hRequest : ∀ req k, pc.request = some (req, k) → (s.conns worker).request = some (req, k))
    (hDrops : ∀ rid, pc.Drops rid → (s.conns worker).Drops rid ∨ ListedIn s.connections worker rid)
    (hClosing : pc.isClosing = true → (s.conns worker).isClosing = true)
    (hHistory : s.history.Kept s'.history)
    (hConnections : ∀ conn rid, ListedIn s'.connections conn rid → ListedIn s.connections conn rid ∨
      conn = worker ∧ ∃ req k, (s.conns worker).request = some (req, k) ∧ rid = req.rid) :
    s.Works s' worker := by
  have hPc : s'.conns worker = pc := by rw [hConns, Function.update_self]
  refine ⟨fun conn hNe => by rw [hConns, Function.update_of_ne hNe], ?_, ?_, ?_, hHistory, hConnections⟩
  · rwa [hPc]
  · rwa [hPc]
  · rwa [hPc]

theorem Works.turn {s s' : StoreThreads} {worker : Conn} {pc : ConnPc}
    (hConns : s'.conns = Function.update s.conns worker pc)
    (hRequest : ∀ req k, pc.request = some (req, k) → (s.conns worker).request = some (req, k))
    (hDrops : ∀ rid, pc.Drops rid → (s.conns worker).Drops rid ∨ ListedIn s.connections worker rid)
    (hClosing : pc.isClosing = true → (s.conns worker).isClosing = true)
    (hHistory : s.history.Kept s'.history)
    (hConnections : s'.connections = s.connections) : s.Works s' worker :=
  .of_pc hConns hRequest hDrops hClosing hHistory fun conn rid h => .inl (by rwa [hConnections] at h)

theorem works_connEffect (ctx : StepContext) (worker : Conn) : s.Works (s.connEffect ctx worker) worker := by
  cases hPc : s.conns worker with
  | ready | closed =>
    simp only [connEffect, hPc]
    exact ⟨fun _ _ => rfl, fun _ _ => id, fun _ => .inl, id, .refl _, fun _ _ => .inl⟩
  | testing rid =>
    simp only [connEffect, hPc]
    exact .turn rfl (by simp [ConnPc.request]) (fun _ h => h.elim) (by simp [ConnPc.isClosing]) (.refl _)
      (congrArg RequestStore.connections (store_gonggoTest ..))
  | dumping rid dumpRid start size =>
    simp only [connEffect, hPc]
    exact .turn rfl (by simp [ConnPc.request]) (fun _ h => h.elim) (by simp [ConnPc.isClosing]) (.refl _)
      (congrArg RequestStore.connections (store_gonggoResponseDump ..))
  | requestSetting req k =>
    simp only [connEffect, hPc]
    refine .turn rfl ?_ (fun _ h => h.elim) (by simp [ConnPc.isClosing]) ⟨rfl, rfl, rfl, fun _ => id⟩ rfl
    rw [hPc]
    exact fun _ _ => id
  | connectionSetting req k =>
    simp only [connEffect, hPc]
    refine .of_pc rfl ?_ (fun _ h => h.elim) (by simp [ConnPc.isClosing]) (.refl _) ?_
    · rw [hPc]
      exact fun _ _ => id
    · intro conn rid hListed
      rw [hPc]
      rcases (listedIn_clientConnectionTableSet ..).mp hListed with hOld | ⟨hConn, hRid⟩
      · exact .inl hOld
      · exact .inr ⟨hConn, req, k, rfl, hRid⟩
  | serviceSetting req k =>
    simp only [connEffect, hPc]
    refine .turn rfl ?_ (fun _ h => h.elim) (by simp [ConnPc.isClosing]) (.refl _) rfl
    rw [hPc]
    exact fun _ _ => id
  | proxynameSetting req k =>
    simp only [connEffect, hPc]
    exact .turn rfl (by simp [ConnPc.request]) (fun _ h => h.elim) (by simp [ConnPc.isClosing])
      ⟨rfl, rfl, rfl, fun _ => id⟩ rfl
  | closing =>
    simp only [connEffect, hPc]
    cases hDup : clientConnectionTableRequestDup s.connections worker with
    | none =>
      exact .turn rfl (by simp [ConnPc.request]) (fun _ h => h.elim) (by simp [hPc, ConnPc.isClosing])
        (.refl _) rfl
    | some uuids =>
      obtain ⟨arr, hArr, rfl⟩ := Option.map_eq_some_iff.mp hDup
      refine .turn rfl ?_ (fun rid hDrops => .inr ?_) (by simp [hPc, ConnPc.isClosing]) (.refl _) rfl
      · cases arr.uuids <;> simp [ConnPc.request, ConnPc.afterDropped]
      · rcases ConnPc.drops_afterDropped hDrops with hMem | ⟨proxyName, hListed⟩
        · exact ⟨arr, hArr, hMem⟩
        · exact (not_listedUnder_empty proxyName rid hListed).elim
  | naming rid rest grouped =>
    simp only [connEffect, hPc]
    refine .turn rfl (by simp [ConnPc.request]) (fun dropped hDrops => .inl ?_)
      (by simp [hPc, ConnPc.isClosing]) (.refl _) rfl
    rw [hPc]
    rcases hDrops with hRid | hRest | ⟨proxyName, hListed⟩
    · exact .inl hRid
    · exact .inr (.inl hRest)
    · split at hListed
      · rcases (listedUnder_clientProxynameTableSet ..).mp hListed with hOld | ⟨-, hRid⟩
        · exact .inr (.inr ⟨proxyName, hOld⟩)
        · exact .inl hRid
      · exact .inr (.inr ⟨proxyName, hListed⟩)
  | requestRemoving rid rest grouped | serviceRemoving rid rest grouped
  | proxynamesCopying rid rest grouped =>
    simp only [connEffect, hPc]
    refine .turn rfl (by simp [ConnPc.request]) (fun dropped hDrops => .inl ?_)
      (by simp [hPc, ConnPc.isClosing]) (.refl _) rfl
    rw [hPc]
    exact hDrops
  | proxynameDropping rid names rest grouped =>
    simp only [connEffect, hPc]
    refine .turn rfl ?_ (fun dropped hDrops => .inl ?_) (by simp [hPc, ConnPc.isClosing]) (.refl _) rfl
    · split
      · simp [ConnPc.request]
      · cases rest <;> simp [ConnPc.request, ConnPc.afterDropped]
    · rw [hPc]
      split at hDrops
      · exact hDrops
      · exact .inr (ConnPc.drops_afterDropped hDrops)
  | targeting grouped =>
    simp only [connEffect, hPc]
    refine .turn rfl (by simp [ConnPc.request]) (fun dropped hDrops => .inl ?_)
      (by simp [hPc, ConnPc.isClosing]) (.refl _) rfl
    obtain ⟨proxyName, hMem⟩ := hDrops
    rw [hPc]
    exact ⟨proxyName, mem_dropConnTargets hMem⟩
  | dropServiceSetting targets drawn =>
    cases targets with
    | nil =>
      simp only [connEffect, hPc]
      exact .turn rfl (by simp [ConnPc.request]) (fun _ h => h.elim) (by simp [hPc, ConnPc.isClosing])
        (.refl _) rfl
    | cons target targets =>
      simp only [connEffect, hPc]
      refine .turn rfl (by simp [ConnPc.request]) (fun dropped hDrops => .inl ?_)
        (by simp [hPc, ConnPc.isClosing]) (.refl _) rfl
      obtain ⟨proxyName, hMem⟩ := hDrops
      rw [hPc]
      exact ⟨proxyName, List.mem_cons_of_mem _ hMem⟩
  | dropProxynameSetting proxyName rid targets drawn =>
    simp only [connEffect, hPc]
    refine .turn rfl (by simp [ConnPc.request]) (fun dropped hDrops => .inl ?_)
      (by simp [hPc, ConnPc.isClosing]) (.refl _) rfl
    rw [hPc]
    exact hDrops
  | connectionRemoving =>
    simp only [connEffect, hPc]
    refine .of_pc rfl (by simp [ConnPc.request]) (fun _ h => h.elim) (by simp [hPc, ConnPc.isClosing])
      (.refl _) fun conn rid hListed => .inl ?_
    exact ((listedIn_remove ..).mp hListed).2

/-- The worker receives a message: it acknowledges a request of a service of a proxy, or it stays as
far from any request as before. -/
theorem receive_cases (s : StoreThreads) (ctx : StepContext) (worker : Conn) (uri data : String) :
    (s.Works (s.receive ctx.toRouteContext worker uri data) worker ∧
      ∀ name, ((s.receive ctx.toRouteContext worker uri data).conns worker).listing = some name →
        (s.conns worker).listing = some name) ∨
      ∃ req : ProxyRequest, StoreStep.Receives ⟨ctx, .receive worker uri data⟩ worker req ∧
        ∃ d : Dispatcher, d.store = s.dispatcher.store ∧
          s.receive ctx.toRouteContext worker uri data =
            ((s.withDispatcher d).withHistory (s.history.acknowledge worker req.rid)).setConn worker
              (.requestSetting req s.history.count) := by
  have hSame (d : Dispatcher) (hStore : d.store = s.dispatcher.store) :
      s.Works (s.withDispatcher d) worker :=
    ⟨fun _ _ => rfl, fun _ _ => id, fun _ => .inl, id, .refl _,
      fun conn rid h => .inl (by rwa [connections, withDispatcher, hStore] at h)⟩
  have hAnswering (d : Dispatcher) (hStore : d.store = s.dispatcher.store) {pc : ConnPc}
      (hRequest : pc.request = none) (hListing : pc.listing = none) (hDrops : ∀ rid, ¬ pc.Drops rid)
      (hClosing : pc.isClosing = false) :
      s.Works ((s.withDispatcher d).setConn worker pc) worker ∧
        ∀ name, (((s.withDispatcher d).setConn worker pc).conns worker).listing = some name →
          (s.conns worker).listing = some name := by
    refine ⟨.turn rfl (by simp [hRequest]) (fun rid hDrop => (hDrops rid hDrop).elim) (by simp [hClosing])
      (.refl _) (congrArg RequestStore.connections hStore), ?_⟩
    simp [hListing]
  unfold receive
  split
  · exact .inl ⟨hSame _ rfl, fun _ => id⟩
  · rename_i hUri
    cases hParse : ctx.json.parse data with
    | none => exact .inl ⟨hSame _ rfl, fun _ => id⟩
    | some root =>
      cases hVerdict : clientServiceRouteVerdict root with
      | refused rid status =>
        simp only [hVerdict]
        exact .inl ⟨hSame _ (store_clientParsingStatusReply ..), fun _ => id⟩
      | test rid =>
        simp only [hVerdict]
        exact .inl (hAnswering _ (store_clientParsingStatusReply ..) rfl rfl (fun _ => id) rfl)
      | responseDump rid dumpRid start size =>
        simp only [hVerdict]
        exact .inl (hAnswering _ (store_clientParsingStatusReply ..) rfl rfl (fun _ => id) rfl)
      | proxyRequest rid proxyName serviceName payload timeout =>
        simp only [hVerdict]
        exact .inr ⟨⟨rid, proxyName, _, timeout⟩, ⟨uri, data, root, serviceName, payload, rfl,
          not_not.mp hUri, hParse, hVerdict, rfl⟩, _, store_clientParsingStatusReply .., rfl⟩

/-- Before a drop request is listed its envelope was stored under a generated id. -/
theorem dropServiceSetting_of_connEffect {ctx : StepContext} {worker : Conn}
    {targets : List (ProxyName × Rid)} {drawn : Nat}
    (h : (s.connEffect ctx worker).conns worker = .dropProxynameSetting proxyName rid targets drawn) :
    s.conns worker = .dropProxynameSetting proxyName rid targets drawn ∨ ∃ requestUuid drawn,
      s.conns worker = .dropServiceSetting ((proxyName, requestUuid) :: targets) drawn ∧
        rid = ctx.drop.uuidGenerate drawn := by
  cases hPc : s.conns worker with
  | ready | closed => simp [connEffect, hPc] at h
  | closing =>
    simp only [connEffect, hPc] at h
    split at h
    · simp at h
    · rename_i uuids hDup
      cases uuids <;> simp [ConnPc.afterDropped] at h
  | proxynameDropping rid' names rest grouped =>
    simp only [connEffect, hPc, setConn_self] at h
    split at h
    · cases h
    · cases rest <;> cases h
  | dropServiceSetting targets' drawn' =>
    cases targets' with
    | nil => simp [connEffect, hPc] at h
    | cons target targets' =>
      simp only [connEffect, hPc, setConn_self] at h
      cases h
      exact .inr ⟨target.2, drawn', rfl, rfl⟩
  | _ => simp [connEffect, hPc] at h

theorem conns_effect_ne (h : e.action.worker ≠ some conn) : (e.effect s).conns conn = s.conns conn := by
  obtain ⟨ctx, action⟩ := e
  cases action with
  | receive worker uri data =>
    have hNe : conn ≠ worker := by
      rintro rfl
      exact h rfl
    rcases receive_cases s ctx worker uri data with ⟨hWorks, -⟩ | ⟨req, -, d, -, hEq⟩
    · exact hWorks.conns conn hNe
    · simp only [StoreStep.effect, hEq]
      exact setConn_ne _ hNe _
  | close worker =>
    refine setConn_ne _ ?_ _
    rintro rfl
    exact h rfl
  | conn worker =>
    refine (works_connEffect ctx worker).conns conn ?_
    rintro rfl
    exact h rfl
  | answer | subscriber | pass | timeout | notify | notifier =>
    exact congrFun (aside_effect rfl).conns conn

/-- An id that a worker is to list is that of a message it received, or was generated for a drop
request. -/
theorem listing_effect (h : ((e.effect s).conns conn).listing = some (proxyName, rid)) :
    (s.conns conn).listing = some (proxyName, rid) ∨
      (∃ req, e.Receives conn req ∧ proxyName = req.proxyName ∧ rid = req.rid) ∨
        ∃ requestUuid targets drawn, e.action = .conn conn ∧
          s.conns conn = .dropServiceSetting ((proxyName, requestUuid) :: targets) drawn ∧
            rid = e.ctx.drop.uuidGenerate drawn := by
  by_cases hWorker : e.action.worker = some conn
  · obtain ⟨ctx, action⟩ := e
    cases action with
    | receive worker uri data =>
      cases hWorker
      rcases receive_cases s ctx conn uri data with ⟨-, hListing⟩ | ⟨req, hReceives, d, -, hEq⟩
      · exact .inl (hListing _ h)
      · simp only [StoreStep.effect, hEq, setConn_self, ConnPc.listing, Option.some.injEq,
          Prod.mk.injEq] at h
        exact .inr (.inl ⟨req, hReceives, h.1.symm, h.2.symm⟩)
    | close worker =>
      cases hWorker
      simp [StoreStep.effect, ConnPc.listing] at h
    | conn worker =>
      cases hWorker
      rcases ConnPc.listing_iff.mp h with ⟨req, k, hReq, hEq⟩ | ⟨targets, drawn, hPc⟩
      · exact .inl (ConnPc.listing_iff.mpr
          (.inl ⟨req, k, (works_connEffect ctx conn).request req k hReq, hEq⟩))
      · rcases dropServiceSetting_of_connEffect hPc with hOld | ⟨requestUuid, drawn, hStoring, hRid⟩
        · exact .inl (ConnPc.listing_iff.mpr (.inr ⟨targets, _, hOld⟩))
        · exact .inr (.inr ⟨requestUuid, targets, drawn, rfl, hStoring, hRid⟩)
    | _ => cases hWorker
  · rw [conns_effect_ne hWorker] at h
    exact .inl h

/-- A worker lists the id that it had to list. -/
theorem listedUnder_effect (h : ListedUnder (e.effect s).proxynames proxyName rid) :
    ListedUnder s.proxynames proxyName rid ∨ ∃ conn, (s.conns conn).listing = some (proxyName, rid) := by
  rw [(actsOnTables_effect s e).2 proxyName] at h
  rcases TableAction.listedUnder_proxynames h with hOld | hNew
  · exact .inl hOld
  · obtain ⟨worker, -, ⟨req, k, hPc, rfl, rfl⟩ | ⟨targets, drawn, hPc⟩⟩ := worker_of_inserts hNew
    · exact .inr ⟨worker, by rw [hPc, ConnPc.listing]⟩
    · exact .inr ⟨worker, by rw [hPc, ConnPc.listing]⟩

end StoreThreads

end Gonggo
