import Gonggo.ClientReply
import Gonggo.Library.KeyedList

/-! # The announcement of a proxy to its clients

`client_proxy_alive_notification` without interference: the ids that wait under the proxy are
grouped by the connections that the request table knows for them, in a local table, and each
connection of that table gets one notification.
-/

namespace Gonggo

open KeyedList

/-- What an announcement reads besides the tables. -/
structure AliveContext where
  json : JsonLibrary
  now : Time
  connOrder : Traversal Conn

/-- The loop over the copied ids, with the request table and the local table. -/
def aliveNotificationCollect (now : Time) (requests : ClientRequestTable)
    (clientConnTable : ClientConnectionTable) : List Rid → ClientRequestTable × ClientConnectionTable
  | [] => (requests, clientConnTable)
  | requestUuid :: rest =>
      aliveNotificationCollect now (clientRequestTableGetConn requests requestUuid false false now).2
        (match (clientRequestTableGetConn requests requestUuid false false now).1 with
          | some conn => clientConnectionTableSet clientConnTable conn requestUuid
          | none => clientConnTable)
        rest

/-- The loop over the local table. -/
def aliveNotificationWrite (json : JsonLibrary) (d : Dispatcher) (proxyName : ProxyName)
    (started : Bool) (clientConnTable : ClientConnectionTable) : List Conn → Dispatcher
  | [] => d
  | conn :: rest =>
      aliveNotificationWrite json
        (match clientConnTable.lookup conn with
          | some arr => clientProxyAliveNotificationDo json d conn proxyName arr.uuids started
          | none => d)
        proxyName started clientConnTable rest

def clientProxyAliveNotification (ctx : AliveContext) (d : Dispatcher) (proxyName : ProxyName)
    (started : Bool) : Dispatcher :=
  let rids := (clientProxynameTableRequestDup d.store.proxynames proxyName false).getD []
  let collected := aliveNotificationCollect ctx.now d.store.requests HashTable.empty rids
  aliveNotificationWrite ctx.json { d with store := { d.store with requests := collected.1 } } proxyName
    started collected.2 (ctx.connOrder.visit collected.2.keys)

/-- The connection of a request, as the request table has it. -/
def connOf (requests : ClientRequestTable) (rid : Rid) : Option Conn :=
  (requests.lookup rid).map ClientRequestTableContext.conn

/-! ## The groups -/

theorem requestDup_clientConnectionTableSet {table : ClientConnectionTable} {conn : Conn} {rid : Rid}
    (h : ¬ ListedIn table conn rid) (other : Conn) :
    clientConnectionTableRequestDup (clientConnectionTableSet table conn rid) other =
      extended (if other = conn then [rid] else []) (clientConnectionTableRequestDup table other) := by
  unfold clientConnectionTableSet clientConnectionTableRequestDup
  cases hArr : table.lookup conn with
  | none =>
    simp only [HashTable.lookup_insert]
    split
    · rename_i hOther
      rw [hOther, hArr]
      rfl
    · rfl
  | some arr =>
    have hMem : rid ∉ arr.uuids := fun hMem => h ⟨arr, hArr, hMem⟩
    simp only [hMem, not_false_eq_true, dif_neg, HashTable.lookup_insert]
    split
    · rename_i hOther
      rw [hOther, hArr]
      rfl
    · rfl

theorem getConn_keep (requests : ClientRequestTable) (rid : Rid) (now : Time) :
    clientRequestTableGetConn requests rid false false now = (connOf requests rid, requests) := by
  unfold clientRequestTableGetConn connOf
  cases requests.lookup rid <;> rfl

/-- Every id arrives at the end of the group of its connection. -/
theorem requestDup_aliveNotificationCollect (now : Time) (requests : ClientRequestTable)
    (grouped : ClientConnectionTable) {rids : List Rid} (hNodup : rids.Nodup)
    (hNew : ∀ rid ∈ rids, ∀ conn, ¬ ListedIn grouped conn rid) (conn : Conn) :
    clientConnectionTableRequestDup (aliveNotificationCollect now requests grouped rids).2 conn =
      extended (rids.filter fun rid => connOf requests rid = some conn)
        (clientConnectionTableRequestDup grouped conn) := by
  induction rids generalizing grouped with
  | nil => rfl
  | cons rid rest ih =>
    obtain ⟨hNot, hRest⟩ := List.nodup_cons.mp hNodup
    have hLater : ∀ other ∈ rest, ∀ conn, ¬ ListedIn grouped conn other :=
      fun other hOther => hNew other (List.mem_cons_of_mem _ hOther)
    rw [aliveNotificationCollect, getConn_keep, List.filter_cons]
    cases hConn : connOf requests rid with
    | none =>
      simp only [reduceCtorEq, decide_false, Bool.false_eq_true, if_false]
      exact ih grouped hRest hLater
    | some owner =>
      have hGroups : ∀ other ∈ rest, ∀ conn,
          ¬ ListedIn (clientConnectionTableSet grouped owner rid) conn other := by
        intro other hOther conn hListed
        rcases (listedIn_clientConnectionTableSet ..).mp hListed with hOld | ⟨-, hEq⟩
        · exact hLater other hOther conn hOld
        · exact ne_of_mem_of_not_mem hOther hNot hEq
      have hSet := requestDup_clientConnectionTableSet (hNew rid List.mem_cons_self owner) conn
      simp only [Option.some.injEq, decide_eq_true_eq]
      rw [ih _ hRest hGroups, hSet, extended_extended]
      by_cases hAt : conn = owner
      · subst hAt
        simp
      · rw [if_neg hAt, if_neg (Ne.symm hAt), List.nil_append]

theorem fst_aliveNotificationCollect (now : Time) (requests : ClientRequestTable)
    (grouped : ClientConnectionTable) (rids : List Rid) :
    (aliveNotificationCollect now requests grouped rids).1 = requests := by
  induction rids generalizing grouped with
  | nil => rfl
  | cons rid rest ih =>
    rw [aliveNotificationCollect, getConn_keep]
    exact ih _

/-! ## The notifications -/

/-- The notifications of the second loop, with the connection of each. -/
def aliveNotes (clientConnTable : ClientConnectionTable) (conns : List Conn) : List (Conn × List Rid) :=
  conns.filterMap fun conn =>
    (clientConnectionTableRequestDup clientConnTable conn).map (Prod.mk conn)

theorem aliveNotificationWrite_eq (json : JsonLibrary) (d : Dispatcher) (proxyName : ProxyName)
    (started : Bool) (clientConnTable : ClientConnectionTable) (conns : List Conn) :
    aliveNotificationWrite json d proxyName started clientConnTable conns =
      { d with written := d.written ++ (aliveNotes clientConnTable conns).map fun note =>
          (note.1, json.print (aliveNotificationText proxyName note.2 started)) } := by
  induction conns generalizing d with
  | nil => simp [aliveNotificationWrite, aliveNotes]
  | cons conn rest ih =>
    unfold aliveNotificationWrite
    rw [ih, aliveNotes, aliveNotes, List.filterMap_cons]
    cases hArr : clientConnTable.lookup conn with
    | none => simp [clientConnectionTableRequestDup, hArr]
    | some arr =>
      simp [clientConnectionTableRequestDup, hArr, clientProxyAliveNotificationDo,
        Dispatcher.mgWebsocketWrite]

/-- The ids that wait under the proxy, in the order of its list. -/
def waitingUnder (store : RequestStore) (proxyName : ProxyName) : List Rid :=
  (clientProxynameTableRequestDup store.proxynames proxyName false).getD []

theorem waitingUnder_nodup (store : RequestStore) (proxyName : ProxyName) :
    (waitingUnder store proxyName).Nodup := by
  unfold waitingUnder clientProxynameTableRequestDup
  cases store.proxynames.lookup proxyName with
  | none => exact List.nodup_nil
  | some value => exact value.requestUuids.nodup

/-- The ids that an announcement names. -/
def announcedRids (item : CJson) : List Rid :=
  match item.path ["payload", "rid"] with
  | some (.array rids) => rids.filterMap CJson.valuestring
  | _ => []

theorem Announces.announcedRids_eq {item : CJson} {proxyName : ProxyName} {started : Bool}
    {rids : List Rid} (h : Announces item proxyName started rids) : announcedRids item = rids := by
  rw [announcedRids, h.rid]
  simp [List.filterMap_map, Function.comp_def, CJson.valuestring]

/-- One announcement of the proxy for each connection with a request under it, and all ids with a
connection among the announced ones. -/
structure Notified (print : Printer) (d d' : Dispatcher) (proxyName : ProxyName) (started : Bool)
    (notes : List (Conn × CJson)) : Prop where
  written : d'.written = d.written ++ notes.map fun note => (note.1, print note.2)
  store : d'.store = d.store
  respondRows : d'.respondRows = d.respondRows
  once : (notes.map Prod.fst).Nodup
  conns : ∀ conn, conn ∈ notes.map Prod.fst ↔
    ∃ rid ∈ waitingUnder d.store proxyName, connOf d.store.requests rid = some conn
  announces : ∀ note ∈ notes, Announces note.2 proxyName started
    ((waitingUnder d.store proxyName).filter fun rid => connOf d.store.requests rid = some note.1)
  partition : (notes.flatMap fun note => announcedRids note.2).Perm
    ((waitingUnder d.store proxyName).filter fun rid => (connOf d.store.requests rid).isSome)

/-- The ids under the proxy that the connection is to be told of. -/
def groupOf (store : RequestStore) (proxyName : ProxyName) (conn : Conn) : List Rid :=
  (waitingUnder store proxyName).filter fun rid => connOf store.requests rid = some conn

theorem groupOf_ne_nil_iff {store : RequestStore} {proxyName : ProxyName} {conn : Conn} :
    groupOf store proxyName conn ≠ [] ↔
      ∃ rid ∈ waitingUnder store proxyName, connOf store.requests rid = some conn := by
  simp [groupOf, List.filter_eq_nil_iff]

/-- The local table has the connections with a group, each with its group. -/
structure Collected (store : RequestStore) (proxyName : ProxyName) (table : ClientConnectionTable) :
    Prop where
  keys : ∀ conn, conn ∈ table.keys ↔ groupOf store proxyName conn ≠ []
  notes : ∀ conn ∈ table.keys,
    clientConnectionTableRequestDup table conn = some (groupOf store proxyName conn)

theorem collected_aliveNotificationCollect (now : Time) (store : RequestStore)
    (proxyName : ProxyName) :
    Collected store proxyName (aliveNotificationCollect now store.requests HashTable.empty
      (waitingUnder store proxyName)).2 := by
  have hGroup : ∀ conn, clientConnectionTableRequestDup (aliveNotificationCollect now store.requests
      HashTable.empty (waitingUnder store proxyName)).2 conn =
        extended (groupOf store proxyName conn) none := by
    intro conn
    apply requestDup_aliveNotificationCollect
    · exact waitingUnder_nodup store proxyName
    · rintro rid - owner ⟨arr, hArr, -⟩
      rw [HashTable.lookup_empty] at hArr
      cases hArr
  generalize (aliveNotificationCollect now store.requests HashTable.empty
    (waitingUnder store proxyName)).2 = table at hGroup
  have hKeys : ∀ conn, conn ∈ table.keys ↔ groupOf store proxyName conn ≠ [] := by
    intro conn
    have hSome : conn ∈ table.keys ↔ (clientConnectionTableRequestDup table conn).isSome := by
      rw [HashTable.mem_keys_iff, clientConnectionTableRequestDup, Option.isSome_map,
        Option.isSome_iff_exists]
    rw [hSome, hGroup, extended]
    split
    · rename_i hNil
      simp [hNil]
    · rename_i hSome
      simp [hSome]
  refine { keys := hKeys, notes := ?_ }
  intro conn hConn
  rw [hGroup, extended, if_neg ((hKeys conn).mp hConn)]
  rfl

theorem Collected.aliveNotes_eq {store : RequestStore} {proxyName : ProxyName}
    {table : ClientConnectionTable} (h : Collected store proxyName table) (order : Traversal Conn) :
    aliveNotes table (order.visit table.keys) =
      (order.visit table.keys).map fun conn => (conn, groupOf store proxyName conn) := by
  rw [← List.filterMap_eq_map]
  apply List.filterMap_congr
  intro conn hConn
  rw [h.notes conn ((order.mem_visit_iff _ _).mp hConn)]
  rfl

/-- An announcement partitions the requests under the proxy among their connections. -/
theorem aliveNotification_partitions (ctx : AliveContext) (d : Dispatcher) (proxyName : ProxyName)
    (started : Bool) :
    ∃ notes, Notified ctx.json.print d (clientProxyAliveNotification ctx d proxyName started) proxyName
      started notes := by
  have hCollected := collected_aliveNotificationCollect ctx.now d.store proxyName
  have hResult : clientProxyAliveNotification ctx d proxyName started =
      aliveNotificationWrite ctx.json d proxyName started (aliveNotificationCollect ctx.now
        d.store.requests HashTable.empty (waitingUnder d.store proxyName)).2
        (ctx.connOrder.visit (aliveNotificationCollect ctx.now d.store.requests HashTable.empty
          (waitingUnder d.store proxyName)).2.keys) := by
    simp only [clientProxyAliveNotification, fst_aliveNotificationCollect, waitingUnder]
  generalize (aliveNotificationCollect ctx.now d.store.requests HashTable.empty
    (waitingUnder d.store proxyName)).2 = table at hCollected hResult
  have hConns : (ctx.connOrder.visit table.keys).Nodup := ctx.connOrder.visit_nodup table.keys_nodup
  have hKeys : ∀ conn, conn ∈ ctx.connOrder.visit table.keys ↔
      ∃ rid ∈ waitingUnder d.store proxyName, connOf d.store.requests rid = some conn := by
    intro conn
    rw [ctx.connOrder.mem_visit_iff, hCollected.keys, groupOf_ne_nil_iff]
  rw [hResult, aliveNotificationWrite_eq, hCollected.aliveNotes_eq]
  refine ⟨(ctx.connOrder.visit table.keys).map fun conn =>
    (conn, aliveNotificationText proxyName (groupOf d.store proxyName conn) started), {
      written := by rw [List.map_map, List.map_map]; rfl
      store := rfl
      respondRows := rfl
      once := by simpa [Function.comp_def] using hConns
      conns := by simpa [Function.comp_def] using hKeys
      announces := ?_
      partition := ?_ }⟩
  · intro note hNote
    obtain ⟨conn, -, rfl⟩ := List.mem_map.mp hNote
    exact announces_aliveNotificationText ..
  · rw [List.flatMap_map]
    simp only [(announces_aliveNotificationText ..).announcedRids_eq]
    apply perm_flatMap_filter (waitingUnder_nodup d.store proxyName) hConns
    intro rid hRid conn hConn
    exact (hKeys conn).mpr ⟨rid, hRid, hConn⟩

end Gonggo
