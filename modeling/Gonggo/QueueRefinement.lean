import Gonggo.RequestQueue
import Gonggo.Library.Simulation

/-! # The dispatcher over one queue

The operations of the dispatcher on the queue of requests, with the responses that they save and the
messages that they write. Every run of completed operations on the four tables is a run on the queue,
with the same responses and messages.
-/

namespace Gonggo

open IndexedRows

structure QueueDispatcher where
  queue : RequestQueue
  respondRows : List (Rid × String)
  written : List (Conn × String)

/-- The request that a message is accepted as. -/
def routedRequest (ctx : RouteContext) (uri data : String) (conn : Conn) : Option QueuedRequest :=
  if ctx.gonggoPath ≠ some uri then none
  else
    match (ctx.json.parse data).map clientServiceRouteVerdict with
    | some (.proxyRequest rid proxyName serviceName payload timeout) =>
        some ⟨rid, some ⟨conn, ctx.now, timeout⟩, proxyName,
          clientServiceTableServicePayloadCreate ctx.json.print serviceName payload, false⟩
    | _ => none

namespace QueueDispatcher

variable (a : QueueDispatcher)

def empty : QueueDispatcher := ⟨[], [], []⟩

def withQueue (queue : RequestQueue) : QueueDispatcher := { a with queue := queue }

/-- A message about a request is saved under its id, unless that is empty, and written to the
connection that the request came from. -/
def notify (text : Rid → String) (rid : Rid) : QueueDispatcher :=
  { a with
    respondRows := a.respondRows ++ if 0 < rid.utf8ByteSize then [(rid, text rid)] else []
    written := a.written ++ (a.queue.connOf rid).toList.map fun conn => (conn, text rid) }

/-- What a message is answered at once does not depend on the requests. -/
def route (ctx : RouteContext) (uri data : String) (conn : Conn) : QueueDispatcher :=
  let told := clientServiceRoute ctx ⟨RequestStore.empty, a.respondRows, a.written⟩ uri data conn
  { queue := a.queue ++ (routedRequest ctx uri data conn).toList
    respondRows := told.respondRows
    written := told.written }

def replyAll (text : Rid → String) (removeRequest : Bool) (clock : Nat → Time) (a : QueueDispatcher)
    (sent : Nat) : List Rid → QueueDispatcher
  | [] => a
  | rid :: rest =>
      replyAll text removeRequest clock
        ((a.notify text rid).withQueue
          (if removeRequest then a.queue.remove [rid] else a.queue.refresh rid (clock sent)))
        (sent + 1) rest

def answer (json : JsonLibrary) (clock : Nat → Time) (posted : SubscribeAnswer) : QueueDispatcher :=
  match parsedAnswer json posted with
  | none => a
  | some (items, headers, payload) =>
      let cleared := clearedRid headers payload
      replyAll (replyText json headers (if cleared.isSome then none else payload)) posted.removeRequest
        clock (a.withQueue (a.queue.remove cleared.join.toList)) 0 (items.filterMap CJson.valuestring)

def expire (json : JsonLibrary) (expired : List Rid) : QueueDispatcher :=
  expired.foldl
    (fun a rid => (a.notify (noticeText json) rid).withQueue (a.queue.remove [rid])) a

end QueueDispatcher

inductive QueueEvent
  | route (ctx : RouteContext) (uri data : String) (conn : Conn)
  | close (print : Printer) (registered : ProxyName → Bool) (fresh : Rid → Rid) (conn : Conn)
  | answer (json : JsonLibrary) (clock : Nat → Time) (posted : SubscribeAnswer)
  | expire (json : JsonLibrary) (now : Time) (expired : List Rid)
  | sent (proxyName : ProxyName) (rid : Rid)
  | unsent (proxyName : ProxyName)

/-- New requests have new ids, and a pass deals with the overdue requests in some order. -/
def queueSystem : TransitionSystem QueueDispatcher QueueEvent where
  init a := a = .empty
  guard a
    | .route ctx uri data conn => ∀ r ∈ routedRequest ctx uri data conn, a.queue.find r.rid = none
    | .close print registered fresh conn =>
        ((a.queue.close print registered fresh conn).map QueuedRequest.rid).Nodup
    | .expire _ now expired => expired.Perm (a.queue.overdue now)
    | .answer _ _ _ | .sent _ _ | .unsent _ => True
  effect a
    | .route ctx uri data conn => a.route ctx uri data conn
    | .close print registered fresh conn => a.withQueue (a.queue.close print registered fresh conn)
    | .answer json clock posted => a.answer json clock posted
    | .expire json _ expired => a.expire json expired
    | .sent proxyName rid => a.withQueue (a.queue.mark proxyName rid)
    | .unsent proxyName => a.withQueue (a.queue.unmark proxyName)

/-- The operation on the queue for an operation on the tables: the ids of the drop requests and the
order of the expired requests are left open. -/
inductive StoreEvent.Matches : StoreEvent → QueueEvent → Prop
  | route (ctx : RouteContext) (uri data : String) (conn : Conn) :
      Matches (.route ctx uri data conn) (.route ctx uri data conn)
  | close (ctx : DropConnContext) (fresh : Rid → Rid) (conn : Conn) :
      Matches (.dropConn ctx conn) (.close ctx.print ctx.registered fresh conn)
  | answer (ctx : SubscribeContext) (proxyName : ProxyName) (posted : SubscribeAnswer) :
      Matches (.answer ctx proxyName posted) (.answer ctx.json ctx.clock posted)
  | expire (ctx : TimeoutContext) (expired : List Rid) :
      Matches (.timeoutPass ctx) (.expire ctx.json ctx.now expired)
  | sent (proxyName : ProxyName) (rid : Rid) : Matches (.requestSent proxyName rid) (.sent proxyName rid)
  | unsent (proxyName : ProxyName) : Matches (.requestUnsent proxyName) (.unsent proxyName)

/-! ## Messages from clients -/

/-- The saved responses and the written messages are the same. -/
structure Dispatcher.SameLogs (d d' : Dispatcher) : Prop where
  respondRows : d.respondRows = d'.respondRows
  written : d.written = d'.written

namespace Dispatcher.SameLogs

variable {d d' : Dispatcher}

theorem deliver (h : d.SameLogs d') (conn : Option Conn) (rid : Rid) (text : String) (dbSave : Bool) :
    (d.deliver conn rid text dbSave).SameLogs (d'.deliver conn rid text dbSave) := by
  obtain ⟨hRows, hWritten⟩ := h
  unfold Dispatcher.deliver
  cases conn <;> dsimp only <;> split <;>
    exact ⟨by simp [hRows, mgWebsocketWrite, dbRespondInsert],
      by simp [hWritten, mgWebsocketWrite, dbRespondInsert]⟩

theorem parsingStatus (h : d.SameLogs d') (json : JsonLibrary) (conn : Conn) (rid : Option Rid)
    (status : ServiceStatus) :
    (clientParsingStatusReply json d conn rid status).SameLogs
      (clientParsingStatusReply json d' conn rid status) :=
  ⟨h.respondRows, congrArg (· ++ _) h.written⟩

theorem route (h : d.SameLogs d') (ctx : RouteContext) (uri data : String) (conn : Conn) :
    (clientServiceRoute ctx d uri data conn).SameLogs (clientServiceRoute ctx d' uri data conn) := by
  unfold clientServiceRoute
  split
  · exact h
  · cases ctx.json.parse data with
    | none => exact h
    | some root =>
      have hTold (rid : Rid) := h.parsingStatus ctx.json conn (some rid) .requestParseStatusAcknowledged
      dsimp only
      cases clientServiceRouteVerdict root with
      | refused rid status => exact h.parsingStatus ctx.json conn rid status
      | test rid => exact (hTold rid).deliver (some conn) rid _ true
      | responseDump rid dumpRid start size =>
        simp only [gonggoResponseDump]
        cases ctx.respondQuery dumpRid start size <;> exact (hTold rid).deliver (some conn) rid _ false
      | proxyRequest rid proxyName serviceName payload timeout =>
        exact ⟨(hTold rid).respondRows, (hTold rid).written⟩

end Dispatcher.SameLogs

theorem rid_routedRequest (ctx : RouteContext) (uri data : String) (conn : Conn) :
    (routedRequest ctx uri data conn).map QueuedRequest.rid = clientServiceRoutedRid ctx uri data := by
  unfold routedRequest clientServiceRoutedRid
  by_cases hUri : ctx.gonggoPath ≠ some uri
  · rw [if_pos hUri, if_pos hUri, Option.map_none]
  · rw [if_neg hUri, if_neg hUri]
    rcases (ctx.json.parse data).map clientServiceRouteVerdict with _ | (_ | _ | _ | _) <;> rfl

theorem store_clientServiceRoute_of_routed {ctx : RouteContext} {uri data : String} {rid : Rid}
    (h : clientServiceRoutedRid ctx uri data = some rid) (d : Dispatcher) (conn : Conn) :
    ∃ proxyName serviceName payload timeout,
      (clientServiceRoute ctx d uri data conn).store =
          d.store.saveRequest ctx.json.print conn rid proxyName serviceName payload timeout ctx.now ∧
        routedRequest ctx uri data conn = some ⟨rid, some ⟨conn, ctx.now, timeout⟩, proxyName,
          clientServiceTableServicePayloadCreate ctx.json.print serviceName payload, false⟩ := by
  unfold clientServiceRoutedRid at h
  by_cases hUri : ctx.gonggoPath ≠ some uri
  · rw [if_pos hUri] at h
    cases h
  · rw [if_neg hUri] at h
    cases hParse : ctx.json.parse data with
    | none =>
      rw [hParse] at h
      cases h
    | some root =>
      rw [hParse, Option.map_some] at h
      cases hRoot : clientServiceRouteVerdict root with
      | proxyRequest own proxyName serviceName payload timeout =>
        rw [hRoot] at h
        cases h
        refine ⟨proxyName, serviceName, payload, timeout, ?_, ?_⟩
        · unfold clientServiceRoute
          rw [if_neg hUri, hParse]
          simp only [hRoot]
        · unfold routedRequest
          rw [if_neg hUri, hParse, Option.map_some, hRoot]
      | refused | test | responseDump =>
        rw [hRoot] at h
        cases h

/-- The tables index the queue, and the logs are the same. -/
structure Dispatcher.Over (d : Dispatcher) (a : QueueDispatcher) : Prop where
  store : d.store.Indexes a.queue
  respondRows : d.respondRows = a.respondRows
  written : d.written = a.written

namespace Dispatcher.Over

variable {d : Dispatcher} {a : QueueDispatcher}

theorem empty : Dispatcher.empty.Over .empty := ⟨.empty, rfl, rfl⟩

/-! ## One operation -/

theorem withStore {store : RequestStore} {queue : RequestQueue} (h : d.Over a)
    (hStore : store.Indexes queue) : (d.withStore store).Over (a.withQueue queue) :=
  ⟨hStore, h.respondRows, h.written⟩

/-- A message about a request, and what becomes of the request. -/
theorem notify {d' : Dispatcher} {queue : RequestQueue} (h : d.Over a) (text : Rid → String) (rid : Rid)
    (hStore : d'.store.Indexes queue)
    (hRows : d'.respondRows = d.respondRows ++ storedReplies savedRid text [rid])
    (hWritten : d'.written = d.written ++ writtenReplies d.store text [rid]) :
    d'.Over ((a.notify text rid).withQueue queue) where
  store := hStore
  respondRows := by
    rw [hRows, h.respondRows, storedReplies, List.filter_singleton]
    show _ = a.respondRows ++ _
    by_cases hSaved : 0 < rid.utf8ByteSize <;> simp [savedRid, hSaved]
  written := by
    rw [hWritten, h.written, writtenReplies, List.flatMap_singleton, h.store.ownerOf_eq]
    rfl

theorem reply {json : JsonLibrary} {proxyName : ProxyName} {rid : Rid} {headers : CJson}
    {payload : Option CJson} {removeRequest : Bool} {now : Time} {d' : Dispatcher} (h : d.Over a)
    (hOwn : removeRequest = true → ∀ r ∈ a.queue, r.rid = rid → r.proxyName = proxyName)
    (hReply : proxySubscribeReply json d proxyName (some rid) headers payload removeRequest now = some d') :
    d'.Over ((a.notify (replyText json headers payload) rid).withQueue
      (if removeRequest then a.queue.remove [rid] else a.queue.refresh rid now)) := by
  rw [proxySubscribeReply_some, Option.some.injEq] at hReply
  subst hReply
  refine h.notify _ rid ?_ rfl rfl
  cases removeRequest with
  | true =>
    refine h.store.removed (h.store.agreement.removed_answerRequest (fun other hListed => ?_) now)
    obtain ⟨r, hMem, hRid, hName⟩ := h.store.listedUnder_iff.mp hListed
    rw [← hName]
    exact hOwn rfl r hMem hRid
  | false => exact h.store.answerKeep proxyName rid now

theorem fanOut {ctx : SubscribeContext} {proxyName : ProxyName} {headers : CJson} {payload : Option CJson}
    {removeRequest : Bool} {items : List CJson} {sent : Nat} {d' : Dispatcher} (h : d.Over a)
    (hOwn : removeRequest = true → ∀ rid ∈ items.filterMap CJson.valuestring, ∀ r ∈ a.queue, r.rid = rid →
      r.proxyName = proxyName)
    (hOut : proxySubscribeFanOut ctx proxyName headers payload removeRequest d sent items = some d') :
    d'.Over (QueueDispatcher.replyAll (replyText ctx.json headers payload) removeRequest ctx.clock a sent
      (items.filterMap CJson.valuestring)) := by
  induction items generalizing d a sent with
  | nil =>
    rw [proxySubscribeFanOut, Option.some.injEq] at hOut
    exact hOut ▸ h
  | cons item rest ih =>
    rw [proxySubscribeFanOut] at hOut
    cases hRid : item.valuestring with
    | none => simp [hRid, proxySubscribeReply] at hOut
    | some rid =>
      rw [hRid] at hOut
      rw [List.filterMap_cons_some hRid] at hOwn ⊢
      cases hReply : proxySubscribeReply ctx.json d proxyName (some rid) headers payload removeRequest
          (ctx.clock sent) with
      | none => simp [hReply] at hOut
      | some next =>
        simp only [hReply] at hOut
        have hNext := h.reply (fun hRemove => hOwn hRemove rid List.mem_cons_self) hReply
        refine ih hNext (fun hRemove other hOther r hMem => ?_) hOut
        rw [if_pos hRemove] at hMem
        exact hOwn hRemove other (List.mem_cons_of_mem _ hOther) r (List.mem_of_mem_filter hMem)

theorem answer {ctx : SubscribeContext} {proxyName : ProxyName} {posted : SubscribeAnswer}
    {state : ProxySubscribeState} {d' : Dispatcher} (h : d.Over a)
    (hOwn : posted.removeRequest = true → ∀ rid ∈ answeredRids ctx.json posted,
      ListedUnder d.store.proxynames proxyName rid ∨ d.store.Absent rid)
    (hExchange : proxySubscribeExchange ctx d proxyName posted = some (state, d')) :
    d'.Over (a.answer ctx.json ctx.clock posted) := by
  unfold proxySubscribeExchange at hExchange
  unfold answeredRids at hOwn
  unfold QueueDispatcher.answer
  cases hParsed : parsedAnswer ctx.json posted with
  | none =>
    simp only [hParsed, Option.some.injEq, Prod.mk.injEq] at hExchange
    exact hExchange.2 ▸ h
  | some parsed =>
    obtain ⟨items, headers, payload⟩ := parsed
    simp only [hParsed, Option.map_eq_some_iff, Prod.mk.injEq] at hExchange hOwn ⊢
    obtain ⟨_, hOut, -, rfl⟩ := hExchange
    have hPurged : (purgeCleared ctx d (clearedRid headers payload)).Over
        (a.withQueue (a.queue.remove (clearedRid headers payload).join.toList)) := by
      unfold purgeCleared
      cases (clearedRid headers payload).join with
      | none => exact ⟨h.store.removed (.refl d.store), h.respondRows, h.written⟩
      | some rid => exact ⟨h.store.removed (h.store.agreement.removed_purge ctx.purgeOrder rid),
          h.respondRows, h.written⟩
    refine hPurged.fanOut (fun hRemove rid hRid r hMem hEq => ?_) hOut
    -- the purge takes requests out and lists none anew
    have hIn : r ∈ a.queue := List.mem_of_mem_filter hMem
    rcases hOwn hRemove rid hRid with hListed | hAbsent
    · obtain ⟨other, hOther, hSame, hName⟩ := h.store.listedUnder_iff.mp hListed
      rw [List.inj_on_of_nodup_map h.store.distinct hIn hOther (hEq.trans hSame.symm), hName]
    · exact absurd (h.store.find_eq_some.mpr ⟨hIn, hEq⟩) (by rw [h.store.absent_iff.mp hAbsent]; nofun)

theorem expire {ctx : TimeoutContext} (h : d.Over a) (expired : List Rid) :
    (expired.foldl (clientTimeoutRequest ctx) d).Over (a.expire ctx.json expired) := by
  unfold QueueDispatcher.expire
  induction expired generalizing d a with
  | nil => exact h
  | cons rid rest ih =>
    refine ih (h.notify _ rid ?_ (logs_clientTimeoutRequest ctx d rid).1 (logs_clientTimeoutRequest ctx d rid).2)
    exact h.store.removed (removed_clientTimeoutRequest ctx h.store.agreement rid)

theorem route {ctx : RouteContext} {uri data : String} {conn : Conn} (h : d.Over a)
    (hNew : ∀ r ∈ routedRequest ctx uri data conn, a.queue.find r.rid = none) :
    (clientServiceRoute ctx d uri data conn).Over (a.route ctx uri data conn) := by
  have hLogs : d.SameLogs ⟨RequestStore.empty, a.respondRows, a.written⟩ := ⟨h.respondRows, h.written⟩
  have hTold := hLogs.route ctx uri data conn
  refine ⟨?_, hTold.respondRows, hTold.written⟩
  show (clientServiceRoute ctx d uri data conn).store.Indexes
    (a.queue ++ (routedRequest ctx uri data conn).toList)
  cases hRouted : clientServiceRoutedRid ctx uri data with
  | none =>
    have hNone := Option.map_eq_none_iff.mp ((rid_routedRequest ctx uri data conn).trans hRouted)
    rw [store_clientServiceRoute_of_none hRouted, hNone, Option.toList_none, List.append_nil]
    exact h.store
  | some rid =>
    obtain ⟨proxyName, serviceName, payload, timeout, hStore, hRequest⟩ :=
      store_clientServiceRoute_of_routed hRouted d conn
    rw [hStore, hRequest, Option.toList_some]
    exact h.store.saveRequest _ _ _ _ _ (hNew _ hRequest)

theorem dropConn {ctx : DropConnContext} {conn : Conn} (h : d.Over a)
    (hNodup : (dropConnDrawn ctx d.store conn).Nodup)
    (hAbsent : ∀ rid ∈ dropConnDrawn ctx d.store conn, d.store.Absent rid) :
    ∃ fresh, (d.withStore (clientServiceDropConn ctx d.store conn)).Over
      (a.withQueue (a.queue.close ctx.print ctx.registered fresh conn)) := by
  cases hDup : clientConnectionTableRequestDup d.store.connections conn with
  | none => exact ⟨id, h.withStore (h.store.closed ctx (connectionClosed_of_none ctx hDup))⟩
  | some uuids =>
    obtain ⟨fresh, hClosed⟩ := connectionClosed_of_some ctx hDup h.store.agreement hNodup hAbsent
    exact ⟨fresh, h.withStore (h.store.closed ctx hClosed)⟩

end Dispatcher.Over

/-! ## Whole runs -/

/-- The tables of the run index the queue, and every request in it was submitted or generated. -/
structure StoreRun.Over (s : StoreRun) (a : QueueDispatcher) : Prop where
  dispatcher : s.dispatcher.Over a
  ledgered : s.Ledgered

theorem StoreRun.Over.absent {s : StoreRun} {a : QueueDispatcher} (h : s.Over a) {rid : Rid}
    (hNew : rid ∉ s.used) : s.store.Absent rid := by
  obtain ⟨ledger, hRep, hUsed⟩ := h.ledgered
  refine (hRep.absent_iff rid).mpr ?_
  by_contra hSome
  exact hNew (hUsed rid hSome)

theorem simulates_queueSystem :
    storeSystem.Simulates queueSystem (fun s e => e.Fresh s) StoreEvent.Matches StoreRun.Over := by
  intro s a e h hGuard hFresh
  have hLedgered : (storeSystem.effect s e).Ledgered := h.ledgered.effect e hGuard hFresh
  cases e with
  | route ctx uri data conn =>
    have hNew : ∀ r ∈ routedRequest ctx uri data conn, a.queue.find r.rid = none := by
      intro r hRequest
      refine h.dispatcher.store.absent_iff.mp (h.absent (hFresh _ ?_))
      rw [← rid_routedRequest ctx uri data conn, hRequest, Option.map_some]
    exact ⟨_, .route ctx uri data conn, hNew, h.dispatcher.route hNew, hLedgered⟩
  | dropConn ctx conn =>
    obtain ⟨fresh, hOver⟩ := h.dispatcher.dropConn hFresh.1 fun rid hRid => h.absent (hFresh.2 rid hRid)
    exact ⟨_, .close ctx fresh conn, hOver.store.distinct, hOver, hLedgered⟩
  | answer ctx proxyName posted =>
    obtain ⟨⟨state, d'⟩, hExchange⟩ := Option.isSome_iff_exists.mp hGuard
    refine ⟨_, .answer ctx proxyName posted, trivial, ?_, hLedgered⟩
    simp only [storeSystem, StoreEvent.effect, hExchange]
    exact h.dispatcher.answer hFresh hExchange
  | timeoutPass ctx =>
    exact ⟨_, .expire ctx _, h.dispatcher.store.perm_expired ctx.expiredOrder ctx.now,
      h.dispatcher.expire _, hLedgered⟩
  | requestSent proxyName rid =>
    exact ⟨_, .sent proxyName rid, trivial, h.dispatcher.withStore (h.dispatcher.store.requestSent _ _),
      hLedgered⟩
  | requestUnsent proxyName =>
    exact ⟨_, .unsent proxyName, trivial, h.dispatcher.withStore (h.dispatcher.store.requestUnsent _),
      hLedgered⟩

/-- The run on the tables is a run of the same operations on one queue; at its end the tables index the
queue, the logs are the same, and the passes of the channel threads take the unsent requests in the order
in which they were accepted. -/
def QueueRun (events : List StoreEvent) (d : Dispatcher) : Prop :=
  ∃ steps, List.Forall₂ StoreEvent.Matches events steps ∧
    queueSystem.Admits (fun _ _ => True) .empty steps ∧ d.Over (queueSystem.run .empty steps) ∧
    ∀ proxyName, ((clientProxynameTableRequestDup d.store.proxynames proxyName true).getD []).filterMap
        (fun rid => (clientServiceTableDup d.store.services rid).map fun text => (rid, text)) =
      (queueSystem.run .empty steps).queue.unsent proxyName

/-- Every run of completed operations on the four tables, under new ids, is a run on one queue. -/
theorem queueRun_of_admits {events : List StoreEvent}
    (h : storeSystem.Admits (fun s e => e.Fresh s) ⟨Dispatcher.empty, [], []⟩ events) :
    QueueRun events (storeSystem.run ⟨Dispatcher.empty, [], []⟩ events).dispatcher := by
  have hStart : StoreRun.Over ⟨Dispatcher.empty, [], []⟩ .empty :=
    ⟨.empty, ledgered_of_reachable (.init rfl)⟩
  obtain ⟨steps, hMatches, hSteps, hEnd⟩ := simulates_queueSystem.run hStart h
  exact ⟨steps, hMatches, hSteps, hEnd.dispatcher, fun proxyName => hEnd.dispatcher.store.unsent_eq proxyName⟩

/-- Two requests, of which the first is handed on, and a connection that closes. -/
theorem queueRun_of_admits_sampleRun :
    QueueRun sampleRun (storeSystem.run ⟨Dispatcher.empty, [], []⟩ sampleRun).dispatcher :=
  queueRun_of_admits sampleRun_admitted

end Gonggo
