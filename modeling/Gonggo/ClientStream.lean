import Gonggo.AliveNotification
import Gonggo.ClosedConnections
import Gonggo.ReplyHeaders
import Gonggo.ResponsePaging

/-! # What a client is told

Every message of the dispatcher goes into one log: to a connection, to the response database, or to
both. A connection is told about a request id only after its own message under that id was
acknowledged, whatever the threads on the request store do in between. What it is told as an answer
or a notice is in the database before, so reading the pages of the id gives it again.
-/

namespace Gonggo

/-- The id that stands first in the headers of an item. -/
def headersRid (item : CJson) : Option Rid := (item.path ["headers", "rid"]).bind CJson.valuestring

theorem headersRid_serviceReplyText (rid : Rid) (headers : CJson) (payload : Option CJson) :
    headersRid (serviceReplyText rid headers payload) = some rid := by
  obtain ⟨more, hHeaders⟩ := exists_mergeHeaders rid headers
  cases payload <;>
    simp [headersRid, serviceReplyText, hHeaders, ownHeaders, CJson.path, CJson.members,
      CJson.addItemToObject, CJson.valuestring, clientReplyHeadersKey, clientReplyServiceRidKey]

/-- `reply` is the answer of a proxy or of the service `test`, `dump` that of `responseDump`. -/
inductive ClientMessage
  | status (rid : Option Rid) (code : ServiceStatus)
  | reply (rid : Rid) (headers : CJson) (payload : Option CJson)
  | dump (rid : Rid) (headers : CJson) (payload : Option CJson)
  | expired (rid : Rid)
  | alive (proxyName : ProxyName) (rids : List Rid) (started : Bool)

namespace ClientMessage

def json : ClientMessage → CJson
  | .status rid code => parsingStatusText rid code
  | .reply rid headers payload | .dump rid headers payload => serviceReplyText rid headers payload
  | .expired rid => expiredReplyText rid
  | .alive proxyName rids started => aliveNotificationText proxyName rids started

/-- The requests that the message names, read in what is written: the id in the headers, or those in
the payload of an announcement. A status is about the message that it answers. -/
def rids (message : ClientMessage) : List Rid :=
  match message with
  | .status _ _ => []
  | .alive _ _ _ => announcedRids message.json
  | .reply _ _ _ | .dump _ _ _ | .expired _ => (headersRid message.json).toList

@[simp] theorem rids_reply (rid : Rid) (headers : CJson) (payload : Option CJson) :
    (reply rid headers payload).rids = [rid] :=
  congrArg Option.toList (headersRid_serviceReplyText rid headers payload)

@[simp] theorem rids_dump (rid : Rid) (headers : CJson) (payload : Option CJson) :
    (dump rid headers payload).rids = [rid] :=
  congrArg Option.toList (headersRid_serviceReplyText rid headers payload)

@[simp] theorem rids_expired (rid : Rid) : (expired rid).rids = [rid] := rfl

@[simp] theorem rids_alive (proxyName : ProxyName) (rids : List Rid) (started : Bool) :
    (alive proxyName rids started).rids = rids :=
  (announces_aliveNotificationText proxyName rids started).announcedRids_eq

/-- The id that the message is saved under. -/
def savedUnder : ClientMessage → Option Rid
  | .reply rid _ _ | .expired rid => some rid
  | _ => none

theorem mem_rids_of_savedUnder {message : ClientMessage} {rid : Rid}
    (h : message.savedUnder = some rid) : rid ∈ message.rids := by
  cases message <;> simp [savedUnder] at h ⊢ <;> exact h.symm

end ClientMessage

/-- A message with the connection it is written to, if there is one. -/
structure Delivery where
  conn : Option Conn
  message : ClientMessage

namespace Delivery

variable (json : JsonLibrary) (d : Delivery)

def text : String := json.print d.message.json

def write : Option (Conn × String) := d.conn.map (·, d.text json)

def row : Option (Rid × String) :=
  d.message.savedUnder.bind fun rid => if 0 < rid.utf8ByteSize then some (rid, d.text json) else none

/-- The acknowledgement of a message under the id. -/
def acknowledgement (conn : Conn) (rid : Rid) : Delivery :=
  ⟨some conn, .status (some rid) .requestParseStatusAcknowledged⟩

end Delivery

abbrev DeliveryLog := List Delivery

namespace DeliveryLog

def Acknowledged (log : DeliveryLog) (conn : Conn) (rid : Rid) : Prop :=
  Delivery.acknowledgement conn rid ∈ log

/-- Each message to a connection is about ids that were acknowledged to that connection before. -/
def InTurn (log : DeliveryLog) : Prop :=
  ∀ before d after, log = before ++ d :: after → ∀ conn, d.conn = some conn →
    ∀ rid ∈ d.message.rids, Acknowledged before conn rid

/-- The item is an acknowledgement of the id. -/
structure AcknowledgesRid (item : CJson) (rid : Rid) : Prop where
  rid : item.path ["headers", "rid"] = some (.string rid)
  requestStatus : item.path ["headers", "requestStatus"] =
    some (.ofInt ServiceStatus.requestParseStatusAcknowledged.code)

/-- The same of what is written: each message names ids of acknowledgements to its connection. -/
def ToldInTurn (log : DeliveryLog) : Prop :=
  ∀ before d after, log = before ++ d :: after → ∀ conn, d.conn = some conn →
    ∀ rid ∈ d.message.rids, ∃ ack ∈ before, ack.conn = some conn ∧ AcknowledgesRid ack.message.json rid

theorem InTurn.told {log : DeliveryLog} (h : log.InTurn) : log.ToldInTurn := by
  intro before d after hSplit conn hConn rid hRid
  exact ⟨.acknowledgement conn rid, h before d after hSplit conn hConn rid hRid, rfl, rfl, rfl⟩

variable {log : DeliveryLog} {conn : Conn} {rid : Rid}

theorem Acknowledged.append (h : log.Acknowledged conn rid) (added : DeliveryLog) :
    Acknowledged (log ++ added) conn rid :=
  List.mem_append_left _ h

theorem inTurn_nil : InTurn [] := by
  intro before d after h
  cases before <;> cases h

theorem InTurn.concat (h : log.InTurn) {d : Delivery}
    (hRids : ∀ conn, d.conn = some conn → ∀ rid ∈ d.message.rids, log.Acknowledged conn rid) :
    InTurn (log ++ [d]) := by
  intro before d' after hSplit
  rcases List.eq_nil_or_concat after with rfl | ⟨after, last, rfl⟩
  · obtain ⟨rfl, hLast⟩ := List.append_inj' hSplit rfl
    cases hLast
    exact hRids
  · have hInit : log = before ++ d' :: after := by
      rw [List.concat_eq_append, ← List.cons_append, ← List.append_assoc] at hSplit
      exact (List.append_inj' hSplit rfl).1
    exact h before d' after hInit

end DeliveryLog

/-! ## Reading what was saved -/

namespace ResponseTable

variable {table : ResponseTable String} {rid : Rid}

/-- The table after `db_respond_insert` of the rows in turn; the time is read off a clock. -/
def ofInserts (clock : Nat → String) (rows : List (Rid × String)) : ResponseTable String :=
  rows.foldl (fun table row => (table.respondInsert row.1 row.2 (clock table.rows.length)).2) .empty

theorem ofInserts_concat (clock : Nat → String) (rows : List (Rid × String)) (row : Rid × String) :
    ofInserts clock (rows ++ [row]) = ((ofInserts clock rows).respondInsert row.1 row.2
      (clock (ofInserts clock rows).rows.length)).2 :=
  List.foldl_concat ..

/-- The responses of each request, numbered from 1 in the order of the inserts. -/
structure Numbers (table : ResponseTable String) (rows : List (Rid × String)) : Prop where
  responds : ∀ rid, (table.rowsOf rid).map ResponseRow.respond =
    (rows.filter fun row => row.1 = rid).map Prod.snd
  numbered : ∀ rid, ∀ row ∈ table.rowsOf rid, 1 ≤ row.num ∧ row.num ≤ rows.length
  increasing : ∀ rid, (table.rowsOf rid).Pairwise fun a b => a.num < b.num

theorem maxNum_le {bound : Int} (hBound : 0 ≤ bound)
    (hRows : ∀ row ∈ table.rowsOf rid, 1 ≤ row.num ∧ row.num ≤ bound) : table.maxNum rid ≤ bound := by
  cases hNil : table.rowsOf rid with
  | nil => simpa [maxNum, hNil, cInt] using hBound
  | cons row rows =>
    have hMem : row ∈ table.rowsOf rid := hNil ▸ List.mem_cons_self
    obtain ⟨num, hMax, hLe, hInt⟩ := max?_nums hMem
    obtain ⟨last, hLast, rfl⟩ := List.mem_map.mp (List.max?_eq_some_iff.mp hMax).1
    have hLow := hRows last hLast
    rw [maxNum, hMax, Option.getD_some, cInt_eq_self (by omega) hInt]
    exact hLow.2

theorem Numbers.insert {rows : List (Rid × String)} (h : Numbers table rows)
    (hRoom : (rows.length : Int) < cIntMax) (row : Rid × String) (ts : String) :
    Numbers (table.respondInsert row.1 row.2 ts).2 (rows ++ [row]) := by
  have hNumbered : ∀ old ∈ table.rowsOf row.1, 1 ≤ old.num := fun old hOld => (h.numbered _ old hOld).1
  have hLow := maxNum_nonneg hNumbered
  have hHigh := maxNum_le (Int.natCast_nonneg _) (h.numbered row.1)
  have hNum : cInt (table.maxNum row.1 + 1) = table.maxNum row.1 + 1 :=
    cInt_eq_self (by omega) (by omega)
  have hFree : (table.respondInsert row.1 row.2 ts).1 = true := by
    unfold respondInsert insertAfter
    rw [dif_neg]
    rintro hKey
    obtain ⟨old, hOld, hKey⟩ := List.mem_map.mp hKey
    rw [hNum] at hKey
    obtain ⟨hId, hSame⟩ := Prod.mk.injEq .. ▸ hKey
    have := le_maxNum hNumbered (mem_rowsOf.mpr ⟨hOld, hId⟩)
    omega
  have hRows (rid : Rid) : (table.respondInsert row.1 row.2 ts).2.rowsOf rid = table.rowsOf rid ++
      if row.1 = rid then [⟨row.1, table.maxNum row.1 + 1, row.2, ts⟩] else [] := by
    rw [rowsOf, rows_respondInsert hFree, List.filter_append, hNum, List.filter_cons]
    split <;> rename_i hRid <;> simp at hRid <;> simp [hRid, rowsOf]
  refine ⟨fun rid => ?_, fun rid old hOld => ?_, fun rid => ?_⟩
  · rw [hRows, List.map_append, h.responds, List.filter_append, List.map_append]
    by_cases hRid : row.1 = rid <;> simp [hRid]
  · have hGrown : (rows ++ [row]).length = rows.length + 1 := by simp
    rw [hRows] at hOld
    rcases List.mem_append.mp hOld with hOld | hNew
    · have := h.numbered rid old hOld
      omega
    · split at hNew
      · rw [List.mem_singleton] at hNew
        rw [hNew]
        dsimp only
        omega
      · cases hNew
  · rw [hRows]
    refine List.pairwise_append.mpr ⟨h.increasing rid, ?_, fun old hOld new hNew => ?_⟩
    · split
      · exact List.pairwise_singleton ..
      · exact List.Pairwise.nil
    · split at hNew
      · rename_i hRid
        rw [List.mem_singleton] at hNew
        have := le_maxNum hNumbered (hRid ▸ hOld)
        rw [hNew]
        dsimp only
        omega
      · cases hNew

theorem numbers_ofInserts (clock : Nat → String) {rows : List (Rid × String)}
    (h : (rows.length : Int) ≤ cIntMax) : Numbers (ofInserts clock rows) rows := by
  induction rows using List.reverseRecOn with
  | nil => exact ⟨fun _ => rfl, nofun, fun _ => List.Pairwise.nil⟩
  | append_singleton rows row ih =>
    have hLength : (rows ++ [row]).length = rows.length + 1 := by simp
    rw [ofInserts_concat]
    exact (ih (by omega)).insert (by omega) row _

/-- The pages of a request give its responses in the order of the inserts. -/
theorem exists_follows_ofInserts (clock : Nat → String) {rows : List (Rid × String)}
    (h : (rows.length : Int) ≤ cIntMax) (rid : Rid) {size : Int} (hSize : 1 ≤ size) :
    ∃ pages, Follows (ofInserts clock rows) rid size 1 pages ∧
      pages.flatMap RespondPage.respond = (rows.filter fun row => row.1 = rid).map Prod.snd := by
  have hNumbers := numbers_ofInserts clock h
  obtain ⟨pages, hPages, hResponds⟩ := exists_follows (le_refl 1) hSize
  refine ⟨pages, hPages, hResponds.trans ?_⟩
  have hAll : ((ofInserts clock rows).rowsOf rid).filter (fun row => (1 : Int) ≤ row.num) =
      (ofInserts clock rows).rowsOf rid :=
    List.filter_eq_self.mpr fun row hRow => decide_eq_true (hNumbers.numbered rid row hRow).1
  rw [selected, hAll, ((hNumbers.increasing rid).imp le_of_lt).insertionSort_eq, hNumbers.responds]

end ResponseTable

/-! ## The ids that the checks let through -/

def RouteVerdict.rid : RouteVerdict → Option Rid
  | .refused rid _ => rid
  | .test rid | .responseDump rid _ _ _ | .proxyRequest rid _ _ _ _ => some rid

theorem rid_gonggoServiceVerdict (rid : Rid) (serviceName : String) (payload : Option CJson) :
    (gonggoServiceVerdict rid serviceName payload).rid = some rid := by
  unfold gonggoServiceVerdict
  split
  · rfl
  split
  · cases payload with
    | none => rfl
    | some payload =>
      dsimp only
      split
      · rfl
      · split <;> rfl
  · rfl

theorem rid_proxyServiceVerdict (headers : CJson) (rid : Rid) (proxyName : ProxyName)
    (serviceName : String) (payload : Option CJson) :
    (proxyServiceVerdict headers rid proxyName serviceName payload).rid = some rid := by
  unfold proxyServiceVerdict
  split
  · rfl
  · dsimp only
    split <;> rfl

/-- No empty id is ever named in a reply. -/
theorem rid_of_verdict {root : CJson} {rid : Rid} (h : (clientServiceRouteVerdict root).rid = some rid) :
    0 < rid.utf8ByteSize := by
  unfold clientServiceRouteVerdict at h
  split at h
  · cases h
  split at h
  · cases h
  rename_i named _
  split at h
  · cases h
  rename_i hNamed
  have hRid : some named = some rid → 0 < rid.utf8ByteSize := by
    rintro ⟨⟩
    omega
  split at h
  · exact hRid h
  split at h
  · exact hRid h
  split at h
  · exact hRid h
  split at h
  · exact hRid h
  split at h
  · rw [rid_gonggoServiceVerdict] at h
    exact hRid h
  · rw [rid_proxyServiceVerdict] at h
    exact hRid h

/-! ## The message of a step -/

def gonggoTestMessage (ctx : RouteContext) (rid : Rid) : ClientMessage :=
  .reply rid (.object [(clientReplyServiceStatusKey, .ofInt gonggoTestSuccess)])
    (some (.object [("services", .array [.string "test", .string "responseDump"]),
      ("proxies", .array (ctx.aliveProxies.map .string))]))

def gonggoResponseDumpMessage (ctx : RouteContext) (rid dumpRid : Rid) (start size : Int) :
    ClientMessage :=
  match ctx.respondQuery dumpRid start size with
  | some r =>
      .dump rid (.object [(clientReplyServiceStatusKey, .ofInt gonggoResponseDumpSuccess)])
        (some (.object [("responses", .array (r.respond.filterMap ctx.json.parse)),
          ("stop", .ofInt r.stop), ("more", .ofInt r.more)]))
  | none =>
      .dump rid (.object [(clientReplyServiceStatusKey, .ofInt gonggoResponseDumpDbError)])
        (some (.object []))

def RouteVerdict.told (conn : Conn) : RouteVerdict → Delivery
  | .refused rid code => ⟨some conn, .status rid code⟩
  | .test rid | .responseDump rid _ _ _ | .proxyRequest rid _ _ _ _ => .acknowledgement conn rid

def toldOnReceipt (ctx : RouteContext) (conn : Conn) (uri data : String) : Option Delivery :=
  if ctx.gonggoPath ≠ some uri then none
  else (ctx.json.parse data).map fun root => (clientServiceRouteVerdict root).told conn

def ConnPc.told (ctx : RouteContext) (conn : Conn) : ConnPc → Option Delivery
  | .testing rid => some ⟨some conn, gonggoTestMessage ctx rid⟩
  | .dumping rid dumpRid start size =>
      some ⟨some conn, gonggoResponseDumpMessage ctx rid dumpRid start size⟩
  | _ => none

def SubscribePc.told : SubscribePc → Option Delivery
  | .writing rid found job _ => some ⟨found.map Held.conn, .reply rid job.headers job.payload⟩
  | _ => none

def TimeoutPc.told : TimeoutPc → Option Delivery
  | .noticing rid found _ => some ⟨found.map Held.conn, .expired rid⟩
  | _ => none

def NotifyPc.told : NotifyPc → Option Delivery
  | .writing proxyName started ((conn, rids) :: _) => some ⟨some conn, .alive proxyName rids started⟩
  | _ => none

def StoreThreads.told (s : StoreThreads) (e : StoreStep) : Option Delivery :=
  match e.action with
  | .receive conn uri data => toldOnReceipt e.ctx.toRouteContext conn uri data
  | .conn conn => (s.conns conn).told e.ctx.toRouteContext conn
  | .subscriber n => (s.subscribers n).told
  | .timeout => s.timeout.told
  | .notifier n => (s.notifiers n).told
  | .close _ | .answer _ _ _ | .pass | .notify _ _ _ => none

/-! ## Who is going to be told -/

/-- The worker has acknowledged the id and is still to answer it or to enter its row. -/
def ConnPc.Owes (rid : Rid) : ConnPc → Prop
  | .testing own | .dumping own _ _ _ => rid = own
  | .requestSetting req _ => rid = req.rid
  | _ => False

/-- The id with the connection that the subscribe thread copied out of its row. -/
def SubscribePc.holds : SubscribePc → Option (Rid × Conn)
  | .connectionDropping rid held _ _ => some (rid, held.conn)
  | .proxynameDropping rid found _ _ | .serviceRemoving rid found _ _ | .writing rid found _ _ =>
      found.map fun held => (rid, held.conn)
  | _ => none

theorem SubscribePc.holds_afterLookup (rid : Rid) (found : Option Held) (job : SubscribeJob)
    (items : List CJson) :
    (afterLookup rid found job items).holds = found.map fun held => (rid, held.conn) := by
  unfold afterLookup
  split
  · cases found <;> rfl
  · rfl

def TimeoutPc.holds : TimeoutPc → Option (Rid × Conn)
  | .noticing rid found _ => found.map fun held => (rid, held.conn)
  | _ => none

/-- The notification goes on to name the id to the connection. -/
def NotifyPc.Names (conn : Conn) (rid : Rid) : NotifyPc → Prop
  | .ready => False
  | .collecting _ _ _ grouped => ListedIn grouped conn rid
  | .writing _ _ targets => ∃ rids, (conn, rids) ∈ targets ∧ rid ∈ rids

namespace StoreThreads

variable {s s' : StoreThreads} {conn : Conn} {rid : Rid} {json : JsonLibrary}

/-- Something in the state may lead to a message to the connection about the id. -/
inductive Claims (s : StoreThreads) (conn : Conn) (rid : Rid) : Prop
  | row (h : s.RowOf rid conn)
  | worker (h : (s.conns conn).Owes rid)
  | subscriber (n : Nat) (h : (s.subscribers n).holds = some (rid, conn))
  | timeout (h : s.timeout.holds = some (rid, conn))
  | notifier (n : Nat) (h : (s.notifiers n).Names conn rid)

/-- One step: what it delivers, about whom, and whom it leads to further messages. -/
structure Tells (json : JsonLibrary) (s s' : StoreThreads) (told : Option Delivery) : Prop where
  written : s'.dispatcher.written =
    s.dispatcher.written ++ told.toList.filterMap (Delivery.write json)
  rows : s'.dispatcher.respondRows =
    s.dispatcher.respondRows ++ told.toList.filterMap (Delivery.row json)
  rids : ∀ d ∈ told, ∀ conn, d.conn = some conn → ∀ rid ∈ d.message.rids, s.Claims conn rid
  named : ∀ conn rid, told = some (.acknowledgement conn rid) → 0 < rid.utf8ByteSize
  claims : ∀ conn rid, s'.Claims conn rid →
    s.Claims conn rid ∨ told = some (.acknowledgement conn rid)

theorem Tells.quiet (h : s'.dispatcher.written = s.dispatcher.written)
    (hRows : s'.dispatcher.respondRows = s.dispatcher.respondRows)
    (hClaims : ∀ conn rid, s'.Claims conn rid → s.Claims conn rid) : Tells json s s' none where
  written := by rw [h, Option.toList_none, List.filterMap_nil, List.append_nil]
  rows := by rw [hRows, Option.toList_none, List.filterMap_nil, List.append_nil]
  rids := nofun
  named := nofun
  claims conn rid h := .inl (hClaims conn rid h)

/-! ## A message, a row or nothing -/

variable {d : Delivery}

theorem Tells.of_written {conn : Conn} {code : ServiceStatus} {rid : Option Rid}
    (hDispatcher : s'.dispatcher = clientParsingStatusReply json s.dispatcher conn rid code)
    (hNamed : ∀ own, rid = some own → 0 < own.utf8ByteSize)
    (hClaims : ∀ other own, s'.Claims other own →
      s.Claims other own ∨ Delivery.mk (some conn) (.status rid code) = .acknowledgement other own) :
    Tells json s s' (some ⟨some conn, .status rid code⟩) where
  written := by
    rw [hDispatcher]
    rfl
  rows := by
    rw [hDispatcher]
    exact (List.append_nil _).symm
  rids := by
    rintro d ⟨⟩ other - own hOwn
    cases hOwn
  named other own hTold := by
    cases hTold
    exact hNamed own rfl
  claims other own h := (hClaims other own h).imp_right (congrArg some)

theorem written_deliver_eq (found : Option Conn) (message : ClientMessage) (rid : Rid) (dbSave : Bool)
    (dispatcher : Dispatcher) :
    (dispatcher.deliver found rid (json.print message.json) dbSave).written = dispatcher.written ++
      (some (Delivery.mk found message)).toList.filterMap (Delivery.write json) := by
  rw [Dispatcher.written_deliver]
  cases found <;> rfl

theorem respondRows_deliver (found : Option Conn) (rid : Rid) (text : String) (dbSave : Bool)
    (dispatcher : Dispatcher) :
    (dispatcher.deliver found rid text dbSave).respondRows = dispatcher.respondRows ++
      if dbSave ∧ 0 < rid.utf8ByteSize then [(rid, text)] else [] := by
  unfold Dispatcher.deliver
  cases found <;> dsimp only <;> split <;>
    simp [Dispatcher.mgWebsocketWrite, Dispatcher.dbRespondInsert]

theorem Tells.of_deliver {found : Option Conn} (message : ClientMessage) {rid : Rid} (dbSave : Bool)
    (hDispatcher : s'.dispatcher = s.dispatcher.deliver found rid (json.print message.json) dbSave)
    (hSaved : message.savedUnder = if dbSave then some rid else none)
    (hRids : message.rids = [rid]) (hFound : ∀ conn, found = some conn → s.Claims conn rid)
    (hClaims : ∀ conn own, s'.Claims conn own → s.Claims conn own) :
    Tells json s s' (some ⟨found, message⟩) where
  written := by rw [hDispatcher, written_deliver_eq]
  rows := by
    rw [hDispatcher, respondRows_deliver]
    congr 1
    cases dbSave with
    | false => simp [Delivery.row, hSaved]
    | true =>
      rw [if_pos rfl] at hSaved
      simp only [Option.toList_some, List.filterMap_cons, List.filterMap_nil, Delivery.row, hSaved,
        Option.bind_some, true_and, Delivery.text]
      split <;> rfl
  rids := by
    rintro d ⟨⟩ conn hConn own hOwn
    rw [hRids, List.mem_singleton] at hOwn
    exact hOwn ▸ hFound conn hConn
  named conn own hTold := by
    cases hTold
    cases hRids
  claims conn own h := .inl (hClaims conn own h)

/-! ## The claims after one step -/

theorem claims_of_worker {worker : Conn} {pc : ConnPc} (h : s'.Claims conn rid)
    (hConns : s'.conns = Function.update s.conns worker pc) (hSubscribers : s'.subscribers = s.subscribers)
    (hTimeout : s'.timeout = s.timeout) (hNotifiers : s'.notifiers = s.notifiers)
    (hRows : ∀ rid conn, s'.RowOf rid conn → s.Claims conn rid) :
    s.Claims conn rid ∨ conn = worker ∧ pc.Owes rid := by
  cases h with
  | row h => exact .inl (hRows rid conn h)
  | worker h =>
    by_cases hConn : conn = worker
    · subst hConn
      rw [hConns, Function.update_self] at h
      exact .inr ⟨rfl, h⟩
    · rw [hConns, Function.update_of_ne hConn] at h
      exact .inl (.worker h)
  | subscriber n h => exact .inl (.subscriber n (by rwa [← hSubscribers]))
  | timeout h => exact .inl (.timeout (by rwa [← hTimeout]))
  | notifier n h => exact .inl (.notifier n (by rwa [← hNotifiers]))

theorem claims_of_subscriber {n : Nat} {pc : SubscribePc} (h : s'.Claims conn rid) (hConns : s'.conns = s.conns)
    (hSubscribers : s'.subscribers = Function.update s.subscribers n pc)
    (hTimeout : s'.timeout = s.timeout) (hNotifiers : s'.notifiers = s.notifiers)
    (hRows : ∀ rid conn, s'.RowOf rid conn → s.RowOf rid conn)
    (hPc : ∀ rid conn, pc.holds = some (rid, conn) → s.Claims conn rid) : s.Claims conn rid := by
  cases h with
  | row h => exact .row (hRows rid conn h)
  | worker h => exact .worker (by rwa [← hConns])
  | subscriber m h =>
    by_cases hNe : m = n
    · subst hNe
      rw [hSubscribers, Function.update_self] at h
      exact hPc rid conn h
    · rw [hSubscribers, Function.update_of_ne hNe] at h
      exact .subscriber m h
  | timeout h => exact .timeout (by rwa [← hTimeout])
  | notifier m h => exact .notifier m (by rwa [← hNotifiers])

theorem claims_of_timeout {pc : TimeoutPc} (h : s'.Claims conn rid) (hConns : s'.conns = s.conns)
    (hSubscribers : s'.subscribers = s.subscribers) (hTimeout : s'.timeout = pc)
    (hNotifiers : s'.notifiers = s.notifiers)
    (hRows : ∀ rid conn, s'.RowOf rid conn → s.RowOf rid conn)
    (hPc : ∀ rid conn, pc.holds = some (rid, conn) → s.Claims conn rid) : s.Claims conn rid := by
  cases h with
  | row h => exact .row (hRows rid conn h)
  | worker h => exact .worker (by rwa [← hConns])
  | subscriber n h => exact .subscriber n (by rwa [← hSubscribers])
  | timeout h => exact hPc rid conn (by rwa [← hTimeout])
  | notifier n h => exact .notifier n (by rwa [← hNotifiers])

theorem claims_of_notifier {n : Nat} {pc : NotifyPc} (h : s'.Claims conn rid) (hConns : s'.conns = s.conns)
    (hSubscribers : s'.subscribers = s.subscribers) (hTimeout : s'.timeout = s.timeout)
    (hNotifiers : s'.notifiers = Function.update s.notifiers n pc) (hRequests : s'.requests = s.requests)
    (hPc : ∀ rid conn, pc.Names conn rid → s.Claims conn rid) : s.Claims conn rid := by
  cases h with
  | row h => exact .row ((rowOf_congr hRequests rid conn).mp h)
  | worker h => exact .worker (by rwa [← hConns])
  | subscriber m h => exact .subscriber m (by rwa [← hSubscribers])
  | timeout h => exact .timeout (by rwa [← hTimeout])
  | notifier m h =>
    by_cases hNe : m = n
    · subst hNe
      rw [hNotifiers, Function.update_self] at h
      exact hPc rid conn h
    · rw [hNotifiers, Function.update_of_ne hNe] at h
      exact .notifier m h

theorem claims_of_held {rid : Rid} {found : Option Held}
    (hFound : ∀ held, found = some held → s.Claims held.conn rid) {other : Rid} {conn : Conn}
    (h : (found.map fun held => (rid, held.conn)) = some (other, conn)) : s.Claims conn other := by
  obtain ⟨held, hHeld, hPair⟩ := Option.map_eq_some_iff.mp h
  cases hPair
  exact hFound held hHeld

theorem claims_of_found (s : StoreThreads) (rid : Rid) :
    ∀ held, s.found rid = some held → s.Claims held.conn rid :=
  fun _ h => .row (rowOf_of_found h)

/-! ## What each thread tells -/

theorem Tells.worker_turn {worker : Conn} {pc : ConnPc}
    (hConns : s'.conns = Function.update s.conns worker pc) (hOwes : ∀ rid, ¬ pc.Owes rid)
    (hRowOf : ∀ rid conn, s'.RowOf rid conn → s.Claims conn rid)
    (hSubscribers : s'.subscribers = s.subscribers) (hTimeout : s'.timeout = s.timeout)
    (hNotifiers : s'.notifiers = s.notifiers) (hWritten : s'.dispatcher.written = s.dispatcher.written)
    (hRows : s'.dispatcher.respondRows = s.dispatcher.respondRows) : Tells json s s' none :=
  .quiet hWritten hRows fun _ _ h =>
    (claims_of_worker h hConns hSubscribers hTimeout hNotifiers hRowOf).resolve_right
      fun hOwn => hOwes _ hOwn.2

theorem tells_receive (s : StoreThreads) (ctx : RouteContext) (worker : Conn) (uri data : String) :
    Tells ctx.json s (s.receive ctx worker uri data) (toldOnReceipt ctx worker uri data) := by
  unfold receive toldOnReceipt
  split
  · exact .quiet rfl rfl fun _ _ => id
  · cases ctx.json.parse data with
    | none => exact .quiet rfl rfl fun _ _ => id
    | some root =>
      have hNamed : ∀ rid, (clientServiceRouteVerdict root).rid = some rid → 0 < rid.utf8ByteSize :=
        fun _ => rid_of_verdict
      have hOwn (pc : ConnPc) (rid : Rid) (d : Dispatcher) (history : UseHistory)
          (hStore : d.store = s.dispatcher.store) (hOwes : ∀ own, pc.Owes own → own = rid)
          (other : Conn) (own : Rid)
          (h : (((s.withDispatcher d).withHistory history).setConn worker pc).Claims other own) :
          s.Claims other own ∨ Delivery.mk (some worker)
            (.status (some rid) .requestParseStatusAcknowledged) = .acknowledgement other own := by
        refine (claims_of_worker (s := s) h rfl rfl rfl rfl fun rid conn hRow => .row ?_).imp_right ?_
        · exact (rowOf_congr (congrArg RequestStore.requests hStore) rid conn).mp hRow
        · rintro ⟨rfl, hPc⟩
          rw [hOwes own hPc]
          rfl
      cases hVerdict : clientServiceRouteVerdict root with
      | refused rid status =>
        rw [hVerdict] at hNamed
        simp only [hVerdict, Option.map_some, RouteVerdict.told]
        refine .of_written rfl hNamed fun other own h => .inl ?_
        cases h with
        | row h => exact .row h
        | worker h => exact .worker h
        | subscriber n h => exact .subscriber n h
        | timeout h => exact .timeout h
        | notifier n h => exact .notifier n h
      | test rid =>
        rw [hVerdict] at hNamed
        simp only [hVerdict, Option.map_some, RouteVerdict.told]
        exact .of_written rfl hNamed (hOwn (.testing rid) rid _ s.history rfl fun _ => id)
      | responseDump rid dumpRid start size =>
        rw [hVerdict] at hNamed
        simp only [hVerdict, Option.map_some, RouteVerdict.told]
        exact .of_written rfl hNamed
          (hOwn (.dumping rid dumpRid start size) rid _ s.history rfl fun _ => id)
      | proxyRequest rid proxyName serviceName payload timeout =>
        rw [hVerdict] at hNamed
        simp only [hVerdict, Option.map_some, RouteVerdict.told]
        exact .of_written rfl hNamed (hOwn (.requestSetting ⟨rid, proxyName, _, timeout⟩
          s.history.count) rid _ (s.history.acknowledge worker rid) rfl fun _ => id)

theorem gonggoResponseDump_eq_deliver (ctx : RouteContext) (dispatcher : Dispatcher) (conn : Conn)
    (rid dumpRid : Rid) (start size : Int) :
    gonggoResponseDump ctx dispatcher conn rid dumpRid start size = dispatcher.deliver (some conn) rid
      (ctx.json.print (gonggoResponseDumpMessage ctx rid dumpRid start size).json) false := by
  unfold gonggoResponseDump gonggoResponseDumpMessage
  cases ctx.respondQuery dumpRid start size <;> rfl

theorem gonggoResponseDumpMessage_about (ctx : RouteContext) (rid dumpRid : Rid) (start size : Int) :
    (gonggoResponseDumpMessage ctx rid dumpRid start size).savedUnder = none ∧
      (gonggoResponseDumpMessage ctx rid dumpRid start size).rids = [rid] := by
  unfold gonggoResponseDumpMessage
  split <;> exact ⟨rfl, rfl⟩

theorem tells_connEffect (s : StoreThreads) (ctx : StepContext) (worker : Conn) :
    Tells ctx.json s (s.connEffect ctx worker) ((s.conns worker).told ctx.toRouteContext worker) := by
  have hKept {s' : StoreThreads} (h : s'.requests = s.requests) (rid : Rid) (conn : Conn)
      (hRow : s'.RowOf rid conn) : s.Claims conn rid := .row ((rowOf_congr h rid conn).mp hRow)
  cases hPc : s.conns worker with
  | ready | closed =>
    simp only [connEffect, hPc]
    exact .quiet rfl rfl fun _ _ => id
  | testing rid =>
    simp only [connEffect, hPc]
    have hOwes : (s.conns worker).Owes rid := by
      rw [hPc]
      rfl
    refine .of_deliver (gonggoTestMessage ctx.toRouteContext rid) true rfl rfl rfl ?_ fun conn own h => ?_
    · rintro conn ⟨⟩
      exact .worker hOwes
    · exact (claims_of_worker (s := s) h rfl rfl rfl rfl (hKept (congrArg RequestStore.requests
        (store_gonggoTest ..)))).resolve_right fun hOwn => hOwn.2
  | dumping rid dumpRid start size =>
    simp only [connEffect, hPc]
    have hOwes : (s.conns worker).Owes rid := by
      rw [hPc]
      rfl
    have hAbout := gonggoResponseDumpMessage_about ctx.toRouteContext rid dumpRid start size
    refine .of_deliver _ false (gonggoResponseDump_eq_deliver ..) hAbout.1 hAbout.2 ?_
      fun conn own h => ?_
    · rintro conn ⟨⟩
      exact .worker hOwes
    · exact (claims_of_worker (s := s) h rfl rfl rfl rfl (hKept (congrArg RequestStore.requests
        (store_gonggoResponseDump ..)))).resolve_right fun hOwn => hOwn.2
  | requestSetting req k =>
    simp only [connEffect, hPc]
    have hOwes : (s.conns worker).Owes req.rid := by
      rw [hPc]
      rfl
    refine .worker_turn rfl (fun _ => id) (fun rid conn hRow => ?_) rfl rfl rfl rfl rfl
    rcases (rowOf_set rfl).mp hRow with ⟨rfl, rfl⟩ | ⟨-, hRow⟩
    · exact .worker hOwes
    · exact .row hRow
  | requestRemoving rid rest grouped =>
    simp only [connEffect, hPc]
    exact .worker_turn rfl (fun _ => id)
      (fun _ _ hRow => .row ((rowOf_remove rfl).mp hRow).2) rfl rfl rfl rfl rfl
  | closing =>
    simp only [connEffect, hPc]
    cases clientConnectionTableRequestDup s.connections worker with
    | none => exact .worker_turn rfl (fun _ => id) (hKept rfl) rfl rfl rfl rfl rfl
    | some uuids =>
      refine .worker_turn rfl (fun rid hOwes => ?_) (hKept rfl) rfl rfl rfl rfl rfl
      cases uuids <;> exact hOwes
  | proxynameDropping rid names rest grouped =>
    simp only [connEffect, hPc]
    refine .worker_turn rfl (fun own hOwes => ?_) (hKept rfl) rfl rfl rfl rfl rfl
    split at hOwes
    · exact hOwes
    · cases rest <;> exact hOwes
  | dropServiceSetting targets drawn =>
    cases targets <;> simp only [connEffect, hPc] <;>
      exact .worker_turn rfl (fun _ => id) (hKept rfl) rfl rfl rfl rfl rfl
  | connectionSetting | serviceSetting | proxynameSetting | naming | serviceRemoving | proxynamesCopying
  | targeting | dropProxynameSetting | connectionRemoving =>
    simp only [connEffect, hPc]
    exact .worker_turn rfl (fun _ => id) (hKept rfl) rfl rfl rfl rfl rfl

theorem Tells.subscriber_turn {n : Nat} {pc : SubscribePc} (hConns : s'.conns = s.conns)
    (hSubscribers : s'.subscribers = Function.update s.subscribers n pc)
    (hTimeout : s'.timeout = s.timeout) (hNotifiers : s'.notifiers = s.notifiers)
    (hRowOf : ∀ rid conn, s'.RowOf rid conn → s.RowOf rid conn)
    (hPc : ∀ rid conn, pc.holds = some (rid, conn) → s.Claims conn rid)
    (hWritten : s'.dispatcher.written = s.dispatcher.written)
    (hRows : s'.dispatcher.respondRows = s.dispatcher.respondRows) : Tells json s s' none :=
  .quiet hWritten hRows fun _ _ h =>
    claims_of_subscriber h hConns hSubscribers hTimeout hNotifiers hRowOf hPc

theorem tells_answer (s : StoreThreads) (n : Nat) (proxyName : ProxyName) (posted : SubscribeAnswer) :
    Tells json s (s.answer json n proxyName posted) none := by
  unfold answer
  cases parsedAnswer json posted with
  | none => exact .quiet rfl rfl fun _ _ => id
  | some parsed =>
    obtain ⟨items, headers, payload⟩ := parsed
    refine .subscriber_turn rfl rfl rfl rfl (fun _ _ => id) (fun rid conn h => ?_) rfl rfl
    cases hCleared : (clearedRid headers payload).join <;> simp [hCleared, SubscribePc.holds] at h

theorem tells_subscriberEffect (s : StoreThreads) (ctx : StepContext) (n : Nat) :
    Tells ctx.json s (s.subscriberEffect ctx n) (s.subscribers n).told := by
  have hHeld (rid : Rid) (found : Option Held)
      (h : (s.subscribers n).holds = found.map fun held => (rid, held.conn)) :
      ∀ held, found = some held → s.Claims held.conn rid := by
    rintro held rfl
    exact .subscriber n h
  cases hPc : s.subscribers n with
  | ready =>
    simp only [subscriberEffect, hPc]
    exact .quiet rfl rfl fun _ _ => id
  | purgeTaking rid job items =>
    simp only [subscriberEffect, hPc]
    refine .subscriber_turn rfl rfl rfl rfl (fun _ _ => rowOf_getConn rfl)
      (fun own conn h => ?_) rfl rfl
    cases hFound : s.found rid <;> simp [hFound, SubscribePc.holds] at h
  | purgeConnectionDropping | purgeProxynamesCopying | purgeServiceRemoving =>
    simp only [subscriberEffect, hPc]
    exact .subscriber_turn rfl rfl rfl rfl (fun _ _ => id) (fun _ _ h => by cases h) rfl rfl
  | purgeProxynameDropping rid names job items =>
    simp only [subscriberEffect, hPc]
    refine .subscriber_turn rfl rfl rfl rfl (fun _ _ => id) (fun own conn h => ?_) rfl rfl
    split at h <;> cases h
  | replying job items =>
    cases items with
    | nil =>
      simp only [subscriberEffect, hPc]
      exact .subscriber_turn rfl rfl rfl rfl (fun _ _ => id) (fun _ _ h => by cases h) rfl rfl
    | cons item items =>
      simp only [subscriberEffect, hPc]
      cases item.valuestring with
      | none => exact .quiet rfl rfl fun _ _ => id
      | some rid =>
        refine .subscriber_turn rfl rfl rfl rfl (fun _ _ => rowOf_getConn rfl)
          (fun own conn h => ?_) rfl rfl
        rw [SubscribePc.holds_afterLookup] at h
        exact claims_of_held (s.claims_of_found rid) h
  | connectionDropping rid held job items =>
    simp only [subscriberEffect, hPc]
    have hRid := hHeld rid (some held) (by rw [hPc]; rfl)
    exact .subscriber_turn rfl rfl rfl rfl (fun _ _ => id)
      (fun _ _ h => claims_of_held hRid h) rfl rfl
  | proxynameDropping rid found job items | serviceRemoving rid found job items =>
    simp only [subscriberEffect, hPc]
    have hRid := hHeld rid found (by rw [hPc]; rfl)
    exact .subscriber_turn rfl rfl rfl rfl (fun _ _ => id)
      (fun _ _ h => claims_of_held hRid h) rfl rfl
  | writing rid found job items =>
    simp only [subscriberEffect, hPc]
    have hRid := hHeld rid found (by rw [hPc]; rfl)
    refine .of_deliver (.reply rid job.headers job.payload) true rfl rfl (ClientMessage.rids_reply ..)
      (fun conn hConn => ?_) fun conn own h => ?_
    · obtain ⟨held, hFound, rfl⟩ := Option.map_eq_some_iff.mp hConn
      exact hRid held hFound
    · exact claims_of_subscriber (s := s) h rfl rfl rfl rfl
        (fun own conn => (rowOf_congr (congrArg RequestStore.requests (store_clientServiceReply ..))
          own conn).mp) fun _ _ h => by cases h

theorem tells_timeoutEffect (s : StoreThreads) (ctx : StepContext) :
    Tells ctx.json s (s.timeoutEffect ctx) s.timeout.told := by
  have hQuiet {s' : StoreThreads} (hConns : s'.conns = s.conns)
      (hSubscribers : s'.subscribers = s.subscribers) (hNotifiers : s'.notifiers = s.notifiers)
      (hRowOf : ∀ rid conn, s'.RowOf rid conn → s.RowOf rid conn)
      (hPc : ∀ rid conn, s'.timeout.holds = some (rid, conn) → s.Claims conn rid)
      (hWritten : s'.dispatcher.written = s.dispatcher.written)
      (hRows : s'.dispatcher.respondRows = s.dispatcher.respondRows) :
      Tells ctx.json s s' none :=
    .quiet hWritten hRows fun _ _ h =>
      claims_of_timeout h hConns hSubscribers rfl hNotifiers hRowOf hPc
  cases hPc : s.timeout with
  | ready =>
    simp only [timeoutEffect, hPc]
    exact .quiet rfl rfl fun _ _ => id
  | passing rids =>
    cases rids with
    | nil =>
      simp only [timeoutEffect, hPc]
      exact hQuiet rfl rfl rfl (fun _ _ => id) (fun _ _ h => by cases h) rfl rfl
    | cons rid rest =>
      simp only [timeoutEffect, hPc]
      exact hQuiet rfl rfl rfl (fun _ _ => id) (fun _ _ h => claims_of_held (s.claims_of_found rid) h)
        rfl rfl
  | noticing rid found rest =>
    simp only [timeoutEffect, hPc]
    refine .of_deliver (.expired rid) true rfl rfl rfl (fun conn hConn => ?_) fun conn own h => ?_
    · obtain ⟨held, rfl, rfl⟩ := Option.map_eq_some_iff.mp hConn
      exact .timeout (by rw [hPc]; rfl)
    · exact claims_of_timeout (s := s) h rfl rfl rfl rfl
        (fun own conn => (rowOf_congr (congrArg RequestStore.requests (store_clientServiceExpiredReply ..))
          own conn).mp) fun _ _ h => by cases h
  | requestRemoving rid found rest =>
    simp only [timeoutEffect, hPc]
    exact hQuiet rfl rfl rfl (fun _ _ h => ((rowOf_remove rfl).mp h).2) (fun _ _ h => by cases h) rfl rfl
  | connectionDropping | serviceRemoving | proxynamesCopying =>
    simp only [timeoutEffect, hPc]
    exact hQuiet rfl rfl rfl (fun _ _ => id) (fun _ _ h => by cases h) rfl rfl
  | proxynameDropping rid names rest =>
    simp only [timeoutEffect, hPc]
    refine hQuiet rfl rfl rfl (fun _ _ => id) (fun own conn h => ?_) rfl rfl
    simp only [setTimeout] at h
    split at h <;> cases h

theorem tells_notifierEffect (s : StoreThreads) (ctx : StepContext) (n : Nat) :
    Tells ctx.json s (s.notifierEffect ctx n) (s.notifiers n).told := by
  have hQuiet {s' : StoreThreads} {pc : NotifyPc} (hDispatcher : s'.dispatcher = s.dispatcher)
      (hConns : s'.conns = s.conns) (hSubscribers : s'.subscribers = s.subscribers)
      (hTimeout : s'.timeout = s.timeout) (hNotifiers : s'.notifiers = Function.update s.notifiers n pc)
      (hPc : ∀ rid conn, pc.Names conn rid → s.Claims conn rid) : Tells ctx.json s s' none :=
    .quiet (by rw [hDispatcher]) (by rw [hDispatcher]) fun _ _ h =>
      claims_of_notifier h hConns hSubscribers hTimeout hNotifiers (by rw [requests, hDispatcher]; rfl)
        hPc
  cases hPc : s.notifiers n with
  | ready =>
    simp only [notifierEffect, hPc]
    exact .quiet rfl rfl fun _ _ => id
  | collecting proxyName started rids grouped =>
    have hGrouped : ∀ rid conn, ListedIn grouped conn rid → s.Claims conn rid := fun rid conn h =>
      .notifier n (by rwa [hPc])
    cases rids with
    | nil =>
      simp only [notifierEffect, hPc]
      refine hQuiet rfl rfl rfl rfl rfl fun rid conn h => ?_
      obtain ⟨rids, hTarget, hRid⟩ := h
      obtain ⟨conn', -, hArr⟩ := List.mem_filterMap.mp hTarget
      obtain ⟨arr, hLookup, hPair⟩ := Option.map_eq_some_iff.mp hArr
      cases hPair
      exact hGrouped rid conn ⟨arr, hLookup, hRid⟩
    | cons rid rids =>
      simp only [notifierEffect, hPc]
      refine hQuiet rfl rfl rfl rfl rfl fun own conn h => ?_
      cases hFound : s.found rid with
      | none =>
        rw [hFound] at h
        exact hGrouped own conn h
      | some held =>
        rw [hFound] at h
        rcases (listedIn_clientConnectionTableSet ..).mp h with hListed | ⟨rfl, rfl⟩
        · exact hGrouped own conn hListed
        · exact s.claims_of_found own held hFound
  | writing proxyName started targets =>
    cases targets with
    | nil =>
      simp only [notifierEffect, hPc]
      exact hQuiet rfl rfl rfl rfl rfl fun _ _ => False.elim
    | cons target targets =>
      obtain ⟨conn, rids⟩ := target
      simp only [notifierEffect, hPc]
      have hNames : ∀ rid conn, (NotifyPc.writing proxyName started targets).Names conn rid →
          s.Claims conn rid := by
        rintro rid conn ⟨rids, hTarget, hRid⟩
        exact .notifier n (by rw [hPc]; exact ⟨rids, List.mem_cons_of_mem _ hTarget, hRid⟩)
      refine ⟨rfl, (List.append_nil _).symm, ?_, (fun _ _ h => by cases h),
        fun _ _ h => .inl (claims_of_notifier (s := s) h rfl rfl rfl rfl rfl hNames)⟩
      rintro d ⟨⟩ conn ⟨⟩ rid hRid
      rw [ClientMessage.rids_alive] at hRid
      exact .notifier n (by rw [hPc]; exact ⟨rids, List.mem_cons_self, hRid⟩)

theorem tells_effect (s : StoreThreads) (e : StoreStep) :
    Tells e.ctx.json s (e.effect s) (s.told e) := by
  obtain ⟨ctx, action⟩ := e
  cases action with
  | receive conn uri data => exact tells_receive s ctx.toRouteContext conn uri data
  | close conn =>
    exact .worker_turn rfl (fun _ => id) (fun _ _ h => .row h) rfl rfl rfl rfl rfl
  | conn conn => exact tells_connEffect s ctx conn
  | answer n proxyName posted => exact tells_answer s n proxyName posted
  | subscriber n => exact tells_subscriberEffect s ctx n
  | pass =>
    exact .quiet rfl rfl fun _ _ h => claims_of_timeout h rfl rfl rfl rfl (fun _ _ => id) nofun
  | timeout => exact tells_timeoutEffect s ctx
  | notify n proxyName started =>
    refine .quiet rfl rfl fun _ _ h => claims_of_notifier h rfl rfl rfl rfl rfl ?_
    rintro rid conn ⟨arr, hArr, -⟩
    rw [HashTable.lookup_empty] at hArr
    cases hArr
  | notifier n => exact tells_notifierEffect s ctx n

end StoreThreads

/-! ## The log of a run -/

/-- The threads on the request store with everything they have delivered. -/
structure ClientStream where
  threads : StoreThreads
  log : DeliveryLog

def clientStreamSystem : TransitionSystem ClientStream StoreStep where
  init c := c = ⟨.started, []⟩
  guard c e := e.guard c.threads
  effect c e := ⟨e.effect c.threads, c.log ++ (c.threads.told e).toList⟩

instance (c : ClientStream) (e : StoreStep) : Decidable (clientStreamSystem.guard c e) :=
  StoreStep.decidableGuard c.threads e

namespace ClientStream

variable {json : JsonLibrary} {c : ClientStream}

/-- The log is what was written and saved, and whoever may be told was acknowledged. -/
structure Logged (json : JsonLibrary) (c : ClientStream) : Prop where
  written : c.threads.dispatcher.written = c.log.filterMap (Delivery.write json)
  rows : c.threads.dispatcher.respondRows = c.log.filterMap (Delivery.row json)
  inTurn : c.log.InTurn
  named : ∀ conn rid, c.log.Acknowledged conn rid → 0 < rid.utf8ByteSize
  claims : ∀ conn rid, c.threads.Claims conn rid → c.log.Acknowledged conn rid

theorem logged_started : Logged json ⟨.started, []⟩ where
  written := rfl
  rows := rfl
  inTurn := DeliveryLog.inTurn_nil
  named := nofun
  claims := by
    rintro conn rid (h | h | ⟨n, h⟩ | h | ⟨n, h⟩)
    · obtain ⟨row, hRow, -⟩ := h
      cases hRow
    · exact h.elim
    · cases h
    · cases h
    · exact h.elim

theorem Logged.effect (h : c.Logged json) (e : StoreStep) (hJson : e.ctx.json = json) :
    (clientStreamSystem.effect c e).Logged json := by
  have hTells := hJson ▸ StoreThreads.tells_effect c.threads e
  refine ⟨?_, ?_, ?_, ?_, ?_⟩
  · exact hTells.written.trans (by rw [h.written, ← List.filterMap_append]; rfl)
  · exact hTells.rows.trans (by rw [h.rows, ← List.filterMap_append]; rfl)
  · cases hTold : c.threads.told e with
    | none => simpa [clientStreamSystem, hTold] using h.inTurn
    | some d =>
      simp only [clientStreamSystem, hTold]
      exact h.inTurn.concat fun conn hConn rid hRid =>
        h.claims conn rid (hTells.rids d hTold conn hConn rid hRid)
  · intro conn rid hAck
    rcases List.mem_append.mp hAck with hOld | hNew
    · exact h.named conn rid hOld
    · exact hTells.named conn rid (Option.mem_toList.mp hNew)
  · intro conn rid hClaims
    rcases hTells.claims conn rid hClaims with hOld | hNew
    · exact (h.claims conn rid hOld).append _
    · exact List.mem_append_right _ (Option.mem_toList.mpr hNew)

theorem logged_of_reachable
    (h : clientStreamSystem.ReachableWhen (fun _ e => e.ctx.json = json) c) : c.Logged json :=
  h.invariant (Logged json) (by rintro c rfl; exact logged_started) fun _ e hc _ hJson => hc.effect e hJson

/-- In every run each message that is written to a connection as an answer, an expiry notice, a
response dump or an announcement of a proxy names only ids that were acknowledged on that very
connection before. -/
theorem toldInTurn_of_reachable
    (h : clientStreamSystem.ReachableWhen (fun _ e => e.ctx.json = json) c) :
    c.threads.dispatcher.written = c.log.filterMap (Delivery.write json) ∧ c.log.ToldInTurn :=
  ⟨(logged_of_reachable h).written, (logged_of_reachable h).inTurn.told⟩

/-- A request is routed and expires. -/
def routeAndExpire : List StoreStep :=
  sampleRouteSteps 1 100 ++ [.pass, .timeout, .timeout].map (sampleStep 200)

theorem reachable_routeAndExpire :
    clientStreamSystem.ReachableWhen
      (fun _ e => e.ctx.json = (sampleStep 100 .pass).ctx.json)
      (clientStreamSystem.run ⟨.started, []⟩ routeAndExpire) := by
  refine .run (.init rfl) routeAndExpire (.of_forall (by decide) fun e he s => ?_)
  rcases List.mem_append.mp he with hRoute | hPass
  · obtain ⟨action, -, rfl⟩ := List.mem_map.mp hRoute
    rfl
  · obtain ⟨action, -, rfl⟩ := List.mem_map.mp hPass
    rfl

theorem toldInTurn_of_reachable_routeAndExpire :
    (clientStreamSystem.run ⟨.started, []⟩ routeAndExpire).threads.dispatcher.written =
      (clientStreamSystem.run ⟨.started, []⟩ routeAndExpire).log.filterMap
        (Delivery.write (sampleStep 100 .pass).ctx.json) ∧
      (clientStreamSystem.run ⟨.started, []⟩ routeAndExpire).log.ToldInTurn :=
  toldInTurn_of_reachable reachable_routeAndExpire

/-- The rows whose `db_respond_insert` succeeds, the attempts being numbered. -/
def insertedRows (succeeds : Nat → Bool) (rows : List (Rid × String)) : List (Rid × String) :=
  (rows.zipIdx.filter fun row => succeeds row.2).map Prod.fst

theorem mem_insertedRows {succeeds : Nat → Bool} {before after : List (Rid × String)}
    {row : Rid × String} (h : succeeds before.length = true) :
    row ∈ insertedRows succeeds (before ++ row :: after) := by
  refine List.mem_map.mpr ⟨(row, before.length), List.mem_filter.mpr ⟨?_, h⟩, rfl⟩
  rw [List.mem_zipIdx_iff_getElem?]
  simp

/-- A saved message of the log has its row, after those of the messages before it. -/
theorem Logged.rows_split (h : c.Logged json) {before after : DeliveryLog} {d : Delivery}
    (hSplit : c.log = before ++ d :: after) {conn : Conn} (hConn : d.conn = some conn) {rid : Rid}
    (hSaved : d.message.savedUnder = some rid) :
    c.threads.dispatcher.respondRows = before.filterMap (Delivery.row json) ++
      (rid, d.text json) :: after.filterMap (Delivery.row json) := by
  have hAck := h.inTurn before d after hSplit conn hConn rid
    (ClientMessage.mem_rids_of_savedUnder hSaved)
  have hNamed := h.named conn rid (hSplit ▸ List.mem_append_left _ hAck)
  have hRow : d.row json = some (rid, d.text json) := by
    rw [Delivery.row, hSaved, Option.bind_some, if_pos hNamed]
  rw [h.rows, hSplit, List.filterMap_append, List.filterMap_cons_some hRow]

/-- Whatever a client was told as an answer or an expiry notice, and whose insert succeeded, it finds
again when it reads the responses of the request page by page, which come in the order they were
saved in. -/
theorem toldIsKept_of_reachable
    (h : clientStreamSystem.ReachableWhen (fun _ e => e.ctx.json = json) c) (succeeds : Nat → Bool)
    (hRoom : ((insertedRows succeeds c.threads.dispatcher.respondRows).length : Int) ≤ cIntMax)
    (clock : Nat → String) (rid : Rid) {size : Int} (hSize : 1 ≤ size) :
    ∃ pages, (ResponseTable.ofInserts clock
        (insertedRows succeeds c.threads.dispatcher.respondRows)).Follows rid size 1 pages ∧
      pages.flatMap RespondPage.respond =
        ((insertedRows succeeds c.threads.dispatcher.respondRows).filter
          fun row => row.1 = rid).map Prod.snd ∧
      ∀ before d after, c.log = before ++ d :: after → d.conn.isSome = true →
        d.message.savedUnder = some rid →
        succeeds (before.filterMap (Delivery.row json)).length = true →
          d.text json ∈ pages.flatMap RespondPage.respond := by
  obtain ⟨pages, hPages, hResponds⟩ := ResponseTable.exists_follows_ofInserts clock hRoom rid hSize
  refine ⟨pages, hPages, hResponds, fun before d after hSplit hConn hSaved hSucceeds => ?_⟩
  obtain ⟨conn, hConn⟩ := Option.isSome_iff_exists.mp hConn
  rw [hResponds, (logged_of_reachable h).rows_split hSplit hConn hSaved]
  exact List.mem_map.mpr ⟨_, List.mem_filter.mpr ⟨mem_insertedRows hSucceeds, decide_eq_true rfl⟩, rfl⟩

/-- The expiry notice is read again when its insert succeeds, and nothing when it fails. -/
theorem toldIsKept_of_reachable_routeAndExpire :
    (∃ pages, (ResponseTable.ofInserts (fun _ => "2024-01-01 00:00:00") (insertedRows (fun _ => true)
        (clientStreamSystem.run ⟨.started, []⟩ routeAndExpire).threads.dispatcher.respondRows)).Follows
          "r" 5 1 pages ∧
      pages.flatMap RespondPage.respond = [printUnformatted (expiredReplyText "r")]) ∧
    ∃ pages, (ResponseTable.ofInserts (fun _ => "2024-01-01 00:00:00") (insertedRows (fun _ => false)
        (clientStreamSystem.run ⟨.started, []⟩ routeAndExpire).threads.dispatcher.respondRows)).Follows
          "r" 5 1 pages ∧
      pages.flatMap RespondPage.respond = [] := by
  obtain ⟨pages, hPages, hResponds, -⟩ := toldIsKept_of_reachable reachable_routeAndExpire
    (fun _ => true) (by decide) (fun _ => "2024-01-01 00:00:00") "r" (by decide : (1 : Int) ≤ 5)
  obtain ⟨none, hNone, hEmpty, -⟩ := toldIsKept_of_reachable reachable_routeAndExpire
    (fun _ => false) (by decide) (fun _ => "2024-01-01 00:00:00") "r" (by decide : (1 : Int) ≤ 5)
  exact ⟨⟨pages, hPages, hResponds.trans (by decide)⟩, none, hNone, hEmpty.trans (by decide)⟩

end ClientStream

end Gonggo
