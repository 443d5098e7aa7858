import Gonggo.AliveNotification
import Gonggo.ConnectionClose
import Gonggo.RequestExpiry
import Gonggo.Library.IndexedRows

/-! # One queue of requests

What the request store is for, without its four tables: the requests in the order they were accepted,
each with the connection it came from, its proxy, its text and whether it was handed on. The drop
requests of the dispatcher come from no connection. The four tables are indexes of this queue, and the
dispatcher does with them what it would do with the queue.
-/

namespace Gonggo

open KeyedList IndexedRows

structure QueuedRequest where
  rid : Rid
  origin : Option ClientRequestTableContext
  proxyName : ProxyName
  text : String
  sent : Bool
  deriving DecidableEq

namespace QueuedRequest

def conn (r : QueuedRequest) : Option Conn := r.origin.map ClientRequestTableContext.conn

def target (r : QueuedRequest) : Option ProxyName := some r.proxyName

def entry (r : QueuedRequest) : Rid × Bool := (r.rid, r.sent)

def refresh (now : Time) (r : QueuedRequest) : QueuedRequest :=
  { r with origin := r.origin.map fun ctx => { ctx with timestamp := now } }

def overdue (now : Time) (r : QueuedRequest) : Bool := r.origin.any fun ctx => ctx.overdue now

@[simp] theorem conn_refresh (now : Time) (r : QueuedRequest) : (r.refresh now).conn = r.conn := by
  simp [conn, refresh, Function.comp_def]

end QueuedRequest

abbrev RequestQueue := List QueuedRequest

namespace RequestQueue

variable (queue : RequestQueue)

def find (rid : Rid) : Option QueuedRequest := row QueuedRequest.rid queue rid

def connOf (rid : Rid) : Option Conn := (queue.find rid).bind QueuedRequest.conn

def remove (gone : List Rid) : RequestQueue := queue.filter fun r => staying gone r.rid

def refresh (rid : Rid) (now : Time) : RequestQueue :=
  queue.map fun r => if r.rid = rid then r.refresh now else r

def mark (proxyName : ProxyName) (rid : Rid) : RequestQueue :=
  queue.map fun r => if r.proxyName = proxyName ∧ r.rid = rid then { r with sent := true } else r

def unmark (proxyName : ProxyName) : RequestQueue :=
  queue.map fun r => if r.proxyName = proxyName then { r with sent := false } else r

def ridsOf (conn : Conn) : List Rid := (queue.filter fun r => r.conn = some conn).map QueuedRequest.rid

/-- The drop requests for the requests of a connection, as far as their proxies have a channel. -/
def drops (print : Printer) (registered : ProxyName → Bool) (fresh : Rid → Rid) (conn : Conn) : RequestQueue :=
  (queue.filter fun r => decide (r.conn = some conn) && registered r.proxyName).map fun r =>
    ⟨fresh r.rid, none, r.proxyName, requestDropText print r.rid, false⟩

def close (print : Printer) (registered : ProxyName → Bool) (fresh : Rid → Rid) (conn : Conn) : RequestQueue :=
  queue.remove (queue.ridsOf conn) ++ queue.drops print registered fresh conn

def overdue (now : Time) : List Rid := (queue.filter (QueuedRequest.overdue now)).map QueuedRequest.rid

/-- The requests that the channel thread of the proxy has still to hand over, with their texts. -/
def unsent (proxyName : ProxyName) : List (Rid × String) :=
  (queue.filter fun r => decide (r.proxyName = proxyName) && !r.sent).map fun r => (r.rid, r.text)

end RequestQueue

/-! ## Entries of the tables -/

theorem map_entriesUnder_ne {table : ClientProxynameTable} {proxyName other : ProxyName}
    (h : other ≠ proxyName) (f : Rid × Bool → Rid × Bool) :
    (entriesUnder table other).map (List.map fun entry => if other = proxyName then f entry else entry) =
      entriesUnder table other := by
  simp [h]

theorem entriesUnder_clientProxynameTableRequestSent (table : ClientProxynameTable)
    (proxyName other : ProxyName) (rid : Rid) :
    entriesUnder (clientProxynameTableRequestSent table proxyName rid) other =
      (entriesUnder table other).map (List.map fun entry =>
        if other = proxyName then (if entry.1 = rid then (entry.1, true) else entry) else entry) := by
  have hPairs := pairsUnder_clientProxynameTableRequestSent table proxyName proxyName rid
  rw [if_pos rfl] at hPairs
  cases hValue : table.lookup proxyName with
  | none =>
    simp only [clientProxynameTableRequestSent, hValue]
    by_cases hOther : other = proxyName
    · rw [hOther, entriesUnder, hValue]
      rfl
    · rw [map_entriesUnder_ne hOther]
  | some value =>
    rw [pairsUnder_of_lookup hValue] at hPairs
    cases hIdx : value.requestUuids.find rid with
    | none =>
      simp only [clientProxynameTableRequestSent, hValue, hIdx] at hPairs ⊢
      by_cases hOther : other = proxyName
      · rw [pairsUnder_of_lookup hValue] at hPairs
        simp only [hOther, if_true]
        rw [entriesUnder, hValue, Option.map_some, Option.map_some, ← hPairs]
      · rw [map_entriesUnder_ne hOther]
    | some idx =>
      simp only [clientProxynameTableRequestSent, hValue, hIdx] at hPairs ⊢
      rw [pairsUnder_insert, if_pos rfl] at hPairs
      rw [entriesUnder_insert, hPairs]
      by_cases hOther : other = proxyName
      · simp only [hOther, if_true]
        rw [entriesUnder, hValue]
        rfl
      · rw [if_neg hOther, map_entriesUnder_ne hOther]

theorem entriesUnder_clientProxynameTableRequestUnsent (table : ClientProxynameTable)
    (proxyName other : ProxyName) :
    entriesUnder (clientProxynameTableRequestUnsent table proxyName) other =
      (entriesUnder table other).map (List.map fun entry =>
        if other = proxyName then (entry.1, false) else entry) := by
  cases hValue : table.lookup proxyName with
  | none =>
    simp only [clientProxynameTableRequestUnsent, hValue]
    by_cases hOther : other = proxyName
    · rw [hOther, entriesUnder, hValue]
      rfl
    · rw [map_entriesUnder_ne hOther]
  | some value =>
    simp only [clientProxynameTableRequestUnsent, hValue]
    rw [entriesUnder_insert, value.pairs_clearSents]
    by_cases hOther : other = proxyName
    · simp only [hOther, if_true]
      rw [entriesUnder, hValue]
      rfl
    · rw [if_neg hOther, map_entriesUnder_ne hOther]

/-! ## The tables as indexes -/

/-- The ids of the queue are distinct, and each table is an index of it. -/
structure RequestStore.Indexes (store : RequestStore) (queue : RequestQueue) : Prop where
  distinct : (queue.map QueuedRequest.rid).Nodup
  requests : ∀ rid, store.requests.lookup rid = (queue.find rid).bind QueuedRequest.origin
  services : ∀ rid, store.services.lookup rid = (queue.find rid).map QueuedRequest.text
  connections : ∀ conn, clientConnectionTableRequestDup store.connections conn =
    (group QueuedRequest.conn queue conn).map (List.map QueuedRequest.rid)
  proxynames : ∀ proxyName, entriesUnder store.proxynames proxyName =
    (group QueuedRequest.target queue proxyName).map (List.map QueuedRequest.entry)

namespace RequestStore.Indexes

variable {store store' : RequestStore} {queue : RequestQueue} {rid : Rid} {proxyName : ProxyName}
  {conn : Conn}

theorem empty : RequestStore.empty.Indexes [] where
  distinct := List.nodup_nil
  requests rid := HashTable.lookup_empty rid
  services rid := HashTable.lookup_empty rid
  connections conn := by simp [RequestStore.empty, clientConnectionTableRequestDup, group, extended]
  proxynames proxyName := by simp [RequestStore.empty, entriesUnder, group, extended]

theorem find_eq_some (h : store.Indexes queue) {r : QueuedRequest} :
    queue.find rid = some r ↔ r ∈ queue ∧ r.rid = rid :=
  row_eq_some_iff h.distinct

theorem find_eq_none_iff (h : store.Indexes queue) : queue.find rid = none ↔ store.services.lookup rid = none := by
  rw [h.services, Option.map_eq_none_iff]

theorem listedIn_iff (h : store.Indexes queue) :
    ListedIn store.connections conn rid ↔ ∃ r ∈ queue, r.rid = rid ∧ r.conn = some conn := by
  rw [listedIn_iff_requestDup, h.connections]
  constructor
  · rintro ⟨_, hGroup, hMem⟩
    obtain ⟨items, hItems, rfl⟩ := Option.map_eq_some_iff.mp hGroup
    obtain ⟨r, hR, hRid⟩ := List.mem_map.mp hMem
    obtain ⟨hQueue, hConn⟩ := mem_group.mp ⟨items, hItems, hR⟩
    exact ⟨r, hQueue, hRid, hConn⟩
  · rintro ⟨r, hQueue, hRid, hConn⟩
    obtain ⟨items, hItems, hR⟩ := mem_group.mpr ⟨hQueue, hConn⟩
    exact ⟨_, Option.map_eq_some_iff.mpr ⟨items, hItems, rfl⟩, List.mem_map.mpr ⟨r, hR, hRid⟩⟩

theorem listedUnder_iff (h : store.Indexes queue) :
    ListedUnder store.proxynames proxyName rid ↔ ∃ r ∈ queue, r.rid = rid ∧ r.proxyName = proxyName := by
  rw [listedUnder_iff_entries]
  simp only [h.proxynames]
  constructor
  · rintro ⟨sent, _, hGroup, hMem⟩
    obtain ⟨items, hItems, rfl⟩ := Option.map_eq_some_iff.mp hGroup
    obtain ⟨r, hR, hEntry⟩ := List.mem_map.mp hMem
    obtain ⟨hQueue, hName⟩ := mem_group.mp ⟨items, hItems, hR⟩
    exact ⟨r, hQueue, congrArg Prod.fst hEntry, Option.some.inj hName⟩
  · rintro ⟨r, hQueue, rfl, rfl⟩
    obtain ⟨items, hItems, hR⟩ := mem_group.mpr ⟨hQueue, (rfl : r.target = some r.proxyName)⟩
    exact ⟨r.sent, _, Option.map_eq_some_iff.mpr ⟨items, hItems, rfl⟩, List.mem_map.mpr ⟨r, hR, rfl⟩⟩

/-- The ledger of the queue. -/
theorem represents (h : store.Indexes queue) :
    store.Represents fun rid => (queue.find rid).map fun r => ⟨r.conn, r.proxyName⟩ where
  requests rid := by
    rw [h.requests, Ledger.owner]
    cases queue.find rid <;> rfl
  services rid := by
    rw [h.services]
    cases queue.find rid <;> simp
  proxynames proxyName rid := by
    rw [h.listedUnder_iff, Ledger.proxyName, Option.map_map, Option.map_eq_some_iff]
    simp only [h.find_eq_some, and_assoc, Function.comp_def]
  connections conn rid := by
    rw [h.listedIn_iff, Ledger.owner]
    simp only [Option.bind_eq_some_iff, Option.map_eq_some_iff, h.find_eq_some]
    constructor
    · rintro ⟨r, hMem, hRid, hConn⟩
      exact ⟨_, ⟨r, ⟨hMem, hRid⟩, rfl⟩, hConn⟩
    · rintro ⟨_, ⟨r, ⟨hMem, hRid⟩, rfl⟩, hConn⟩
      exact ⟨r, hMem, hRid, hConn⟩

theorem agreement (h : store.Indexes queue) : store.Agreement := h.represents.agreement

theorem absent_iff (h : store.Indexes queue) : store.Absent rid ↔ queue.find rid = none := by
  rw [h.represents.absent_iff, Option.map_eq_none_iff]

/-! ## The questions that the threads ask -/

theorem ownerOf_eq (h : store.Indexes queue) (rid : Rid) : ownerOf store rid = queue.connOf rid := by
  rw [ownerOf, h.requests, RequestQueue.connOf, Option.map_bind]
  rfl

theorem perm_expired (h : store.Indexes queue) (order : Traversal Rid) (now : Time) :
    (clientRequestTableExpired store.requests order now).Perm (queue.overdue now) := by
  refine (List.perm_ext_iff_of_nodup (clientRequestTableExpired_nodup ..)
    (h.distinct.sublist (List.filter_sublist.map _))).mpr fun rid => ?_
  rw [mem_clientRequestTableExpired, h.requests, List.mem_map]
  simp only [Option.bind_eq_some_iff, h.find_eq_some, List.mem_filter, QueuedRequest.overdue,
    Option.any_eq_true]
  constructor
  · rintro ⟨ctx, ⟨r, ⟨hMem, hRid⟩, hOrigin⟩, hDue⟩
    exact ⟨r, ⟨hMem, ctx, hOrigin, hDue⟩, hRid⟩
  · rintro ⟨r, ⟨hMem, ctx, hOrigin, hDue⟩, hRid⟩
    exact ⟨ctx, ⟨r, ⟨hMem, hRid⟩, hOrigin⟩, hDue⟩

/-- What a pass of the channel thread goes through: the ids that are still to be sent and their texts. -/
theorem unsent_eq (h : store.Indexes queue) (proxyName : ProxyName) :
    ((clientProxynameTableRequestDup store.proxynames proxyName true).getD []).filterMap
        (fun rid => (clientServiceTableDup store.services rid).map fun text => (rid, text)) =
      queue.unsent proxyName := by
  have hDup : (clientProxynameTableRequestDup store.proxynames proxyName true).getD [] =
      (((entriesUnder store.proxynames proxyName).getD []).filter fun entry => !entry.2).map Prod.fst := by
    unfold clientProxynameTableRequestDup entriesUnder
    cases store.proxynames.lookup proxyName <;> rfl
  have hEntries : (entriesUnder store.proxynames proxyName).getD [] =
      (queue.filter fun r => r.target = some proxyName).map QueuedRequest.entry := by
    rw [h.proxynames, ← getD_group]
    cases group QueuedRequest.target queue proxyName <;> rfl
  have hTexts : ∀ r ∈ (queue.filter fun r => r.target = some proxyName).filter fun r => !r.sent,
      (clientServiceTableDup store.services r.rid).map (fun text => (r.rid, text)) = some (r.rid, r.text) := by
    intro r hMem
    have hQueue : r ∈ queue := List.mem_of_mem_filter (List.mem_of_mem_filter hMem)
    rw [clientServiceTableDup, h.services, h.find_eq_some.mpr ⟨hQueue, rfl⟩]
    rfl
  have hUnsent : (queue.filter fun r => r.target = some proxyName).filter (fun r => !r.sent) =
      queue.filter fun r => decide (r.proxyName = proxyName) && !r.sent := by
    rw [List.filter_filter]
    refine List.filter_congr fun r _ => ?_
    simp [QueuedRequest.target, Bool.and_comm]
  rw [hDup, hEntries, List.filter_map, List.map_map, List.filterMap_map, RequestQueue.unsent, ← hUnsent]
  exact (List.filterMap_congr hTexts).trans (congrFun List.filterMap_eq_map _)

/-! ## What the operations do to the queue -/

theorem removed {gone : List Rid} (h : store.Indexes queue) (hRemoved : store.Removed gone store') :
    store'.Indexes (queue.remove gone) where
  distinct := h.distinct.sublist (List.filter_sublist.map _)
  requests rid := by
    rw [hRemoved.requests, RequestQueue.find, RequestQueue.remove, row_filter, h.requests, staying]
    by_cases hGone : rid ∈ gone <;> simp [hGone, RequestQueue.find]
  services rid := by
    rw [hRemoved.services, RequestQueue.find, RequestQueue.remove, row_filter, h.services, staying]
    by_cases hGone : rid ∈ gone <;> simp [hGone, RequestQueue.find]
  connections conn := by
    rw [hRemoved.connections, h.connections, kept_map, RequestQueue.remove, group_filter]
  proxynames proxyName := by
    rw [hRemoved.proxynames, h.proxynames, kept_map, RequestQueue.remove, group_filter]
    rfl

/-- Requests that are new to the store stand at the end of the queue. -/
theorem arrived {more : RequestQueue} (h : store.Indexes queue)
    (hDistinct : ((queue ++ more).map QueuedRequest.rid).Nodup)
    (hOld : ∀ rid ∉ more.map QueuedRequest.rid,
      store'.requests.lookup rid = store.requests.lookup rid ∧
        store'.services.lookup rid = store.services.lookup rid)
    (hNew : ∀ r ∈ more, store'.requests.lookup r.rid = r.origin ∧
      store'.services.lookup r.rid = some r.text)
    (hConnections : ∀ conn, clientConnectionTableRequestDup store'.connections conn =
      extended ((more.filter fun r => r.conn = some conn).map QueuedRequest.rid)
        (clientConnectionTableRequestDup store.connections conn))
    (hProxynames : ∀ proxyName, entriesUnder store'.proxynames proxyName =
      extended ((more.filter fun r => r.target = some proxyName).map QueuedRequest.entry)
        (entriesUnder store.proxynames proxyName)) : store'.Indexes (queue ++ more) := by
  have hFind : ∀ rid ∉ more.map QueuedRequest.rid, (queue ++ more).find rid = queue.find rid := by
    intro rid hRid
    rw [RequestQueue.find, row_append, row_eq_none_iff.mpr hRid, Option.or_none, RequestQueue.find]
  have hFindNew : ∀ r ∈ more, (queue ++ more).find r.rid = some r := fun r hMem =>
    row_of_mem hDistinct (List.mem_append_right _ hMem)
  refine ⟨hDistinct, fun rid => ?_, fun rid => ?_, fun conn => ?_, fun proxyName => ?_⟩
  · by_cases hRid : rid ∈ more.map QueuedRequest.rid
    · obtain ⟨r, hMem, rfl⟩ := List.mem_map.mp hRid
      rw [hFindNew r hMem]
      exact (hNew r hMem).1
    · rw [hFind rid hRid, (hOld rid hRid).1, h.requests]
  · by_cases hRid : rid ∈ more.map QueuedRequest.rid
    · obtain ⟨r, hMem, rfl⟩ := List.mem_map.mp hRid
      rw [hFindNew r hMem]
      exact (hNew r hMem).2
    · rw [hFind rid hRid, (hOld rid hRid).2, h.services]
  · rw [hConnections, h.connections, extended_map, group_append]
  · rw [hProxynames, h.proxynames, extended_map, group_append]

/-- A change of the requests that keeps their ids, texts, connections and proxies. -/
theorem changed {f : QueuedRequest → QueuedRequest} (h : store.Indexes queue)
    (hRid : ∀ r, (f r).rid = r.rid) (hConn : ∀ r, (f r).conn = r.conn)
    (hText : ∀ r, (f r).text = r.text) (hName : ∀ r, (f r).target = r.target)
    (hRequests : ∀ rid, store'.requests.lookup rid = ((queue.find rid).map f).bind QueuedRequest.origin)
    (hServices : store'.services = store.services) (hConnections : store'.connections = store.connections)
    (hProxynames : ∀ proxyName, entriesUnder store'.proxynames proxyName =
      ((group QueuedRequest.target queue proxyName).map (List.map f)).map (List.map QueuedRequest.entry)) :
    store'.Indexes (queue.map f) where
  distinct := by
    rw [List.map_map, (funext hRid : QueuedRequest.rid ∘ f = QueuedRequest.rid)]
    exact h.distinct
  requests rid := by rw [hRequests, RequestQueue.find, RequestQueue.find, row_map hRid]
  services rid := by
    rw [hServices, h.services, RequestQueue.find, RequestQueue.find, row_map hRid, Option.map_map,
      (funext hText : QueuedRequest.text ∘ f = QueuedRequest.text)]
  connections conn := by
    rw [hConnections, h.connections, group_map hConn, Option.map_map, List.map_comp_map,
      (funext hRid : QueuedRequest.rid ∘ f = QueuedRequest.rid)]
  proxynames proxyName := by rw [hProxynames, group_map hName]

theorem saveRequest (h : store.Indexes queue) (print : Printer) (serviceName : String)
    (payload : Option CJson) (timeout now : Time) (hNew : queue.find rid = none) :
    (store.saveRequest print conn rid proxyName serviceName payload timeout now).Indexes
      (queue ++ [⟨rid, some ⟨conn, now, timeout⟩, proxyName,
        clientServiceTableServicePayloadCreate print serviceName payload, false⟩]) := by
  have hAbsent := h.absent_iff.mpr hNew
  refine h.arrived ?_ (fun other hOther => ?_) (fun r hMem => ?_) (fun other => ?_) (fun other => ?_)
  · rw [List.map_append]
    exact h.distinct.append (List.nodup_singleton _)
      (List.disjoint_singleton.mpr (row_eq_none_iff.mp hNew))
  · have hNe : other ≠ rid := by simpa using hOther
    rw [RequestStore.saveRequest, lookup_clientRequestTableSet, lookup_clientServiceTableSet,
      if_neg hNe, if_neg hNe]
    exact ⟨rfl, rfl⟩
  · cases List.mem_singleton.mp hMem
    rw [RequestStore.saveRequest, lookup_clientRequestTableSet, lookup_clientServiceTableSet,
      if_pos rfl, if_pos rfl]
    exact ⟨rfl, rfl⟩
  · rw [RequestStore.saveRequest, requestDup_clientConnectionTableSet (hAbsent.connections conn)]
    by_cases hConn : other = conn
    · simp [hConn, QueuedRequest.conn]
    · simp [hConn, Ne.symm hConn, QueuedRequest.conn]
  · rw [RequestStore.saveRequest, entriesUnder_clientProxynameTableSet (hAbsent.proxynames proxyName)]
    by_cases hName : other = proxyName
    · simp [hName, QueuedRequest.target, QueuedRequest.entry]
    · simp [hName, Ne.symm hName, QueuedRequest.target]

/-- A flag of a request is a flag of its entry. -/
theorem flagged {f : Rid × Bool → Bool} (h : store.Indexes queue) (proxyName : ProxyName)
    {proxynames : ClientProxynameTable}
    (hProxynames : ∀ other, entriesUnder proxynames other = (entriesUnder store.proxynames other).map
      (List.map fun entry => if other = proxyName then (entry.1, f entry) else entry)) :
    (store.withProxynames proxynames).Indexes
      (queue.map fun r => if r.proxyName = proxyName then { r with sent := f r.entry } else r) := by
  have hKeep {β : Type} (g : QueuedRequest → β) (hG : ∀ r, g { r with sent := f r.entry } = g r)
      (r : QueuedRequest) : g (if r.proxyName = proxyName then { r with sent := f r.entry } else r) = g r := by
    split
    · exact hG r
    · rfl
  refine h.changed (hKeep _ fun _ => rfl) (hKeep _ fun _ => rfl) (hKeep _ fun _ => rfl)
    (hKeep _ fun _ => rfl) (fun other => ?_) rfl rfl (fun other => ?_)
  · rw [RequestStore.withProxynames, h.requests, Option.bind_map]
    exact congrArg _ (funext (hKeep QueuedRequest.origin fun _ => rfl)).symm
  · rw [RequestStore.withProxynames, hProxynames, h.proxynames]
    cases hGroup : group QueuedRequest.target queue other with
    | none => rfl
    | some items =>
      simp only [Option.map_some, List.map_map, Option.some.injEq]
      refine List.map_congr_left fun r hMem => ?_
      obtain rfl : r.proxyName = other := Option.some.inj (mem_group.mp ⟨items, hGroup, hMem⟩).2
      show (if r.proxyName = proxyName then (r.entry.1, f r.entry) else r.entry) =
        QueuedRequest.entry (if r.proxyName = proxyName then { r with sent := f r.entry } else r)
      split <;> rfl

theorem requestSent (h : store.Indexes queue) (proxyName : ProxyName) (rid : Rid) :
    (store.withProxynames (clientProxynameTableRequestSent store.proxynames proxyName rid)).Indexes
      (queue.mark proxyName rid) := by
  have hMark : queue.mark proxyName rid = queue.map fun r =>
      if r.proxyName = proxyName then { r with sent := if r.rid = rid then true else r.sent } else r := by
    refine List.map_congr_left fun r _ => ?_
    by_cases hName : r.proxyName = proxyName
    · subst hName
      by_cases hRid : r.rid = rid <;> simp [hRid]
    · simp [hName]
  rw [hMark]
  refine h.flagged (f := fun entry => if entry.1 = rid then true else entry.2) proxyName fun other => ?_
  rw [entriesUnder_clientProxynameTableRequestSent]
  have hEntry : ∀ entry : Rid × Bool, (if entry.1 = rid then (entry.1, true) else entry) =
      (entry.1, if entry.1 = rid then true else entry.2) := fun entry => by split <;> rfl
  simp only [hEntry]

theorem requestUnsent (h : store.Indexes queue) (proxyName : ProxyName) :
    (store.withProxynames (clientProxynameTableRequestUnsent store.proxynames proxyName)).Indexes
      (queue.unmark proxyName) :=
  h.flagged (f := fun _ => false) proxyName fun _ => entriesUnder_clientProxynameTableRequestUnsent ..

theorem answerKeep (h : store.Indexes queue) (proxyName : ProxyName) (rid : Rid) (now : Time) :
    (store.answerRequest proxyName rid false now).Indexes (queue.refresh rid now) := by
  have hKeep {β : Type} (g : QueuedRequest → β) (hG : ∀ r, g (r.refresh now) = g r) (r : QueuedRequest) :
      g (if r.rid = rid then r.refresh now else r) = g r := by
    split
    · exact hG r
    · rfl
  refine h.changed (hKeep _ fun _ => rfl) (hKeep _ fun r => r.conn_refresh now) (hKeep _ fun _ => rfl)
    (hKeep _ fun _ => rfl) (fun other => ?_) rfl rfl (fun other => ?_)
  · rw [lookup_requests_answerRequest_keep, h.requests, h.requests]
    cases hFind : queue.find other with
    | none =>
      split
      · rename_i hEq
        rw [← hEq, hFind]
        rfl
      · rfl
    | some r =>
      obtain ⟨-, rfl⟩ := h.find_eq_some.mp hFind
      by_cases hEq : r.rid = rid
      · rw [if_pos hEq, ← hEq, hFind]
        simp [QueuedRequest.refresh]
      · simp [hEq]
  · have hEntries := h.proxynames other
    rw [Option.map_map, List.map_comp_map]
    refine hEntries.trans ?_
    exact congrArg (fun g => (group QueuedRequest.target queue other).map (List.map g))
      (funext (hKeep QueuedRequest.entry fun _ => rfl)).symm

/-! ## Closing a connection -/

theorem uuidsOf_eq (h : store.Indexes queue) (conn : Conn) : store.uuidsOf conn = queue.ridsOf conn := by
  have hGroup : (group QueuedRequest.conn queue conn).getD [] =
      queue.filter fun r => r.conn = some conn := getD_group queue conn
  rw [RequestStore.uuidsOf, h.connections, RequestQueue.ridsOf, ← hGroup]
  cases group QueuedRequest.conn queue conn <;> rfl

theorem mem_ridsOf (h : store.Indexes queue) {r : QueuedRequest} (hMem : r ∈ queue) :
    r.rid ∈ queue.ridsOf conn ↔ r.conn = some conn := by
  rw [RequestQueue.ridsOf, List.mem_map]
  constructor
  · rintro ⟨other, hOther, hRid⟩
    obtain ⟨hIn, hConn⟩ := List.mem_filter.mp hOther
    rw [← List.inj_on_of_nodup_map h.distinct hIn hMem hRid]
    exact of_decide_eq_true hConn
  · intro hConn
    exact ⟨r, List.mem_filter.mpr ⟨hMem, decide_eq_true hConn⟩, rfl⟩

/-- Without the requests of the connection no list is left for it, and the others keep theirs. -/
theorem kept_requestDup (h : store.Indexes queue) (other : Conn) :
    kept (staying (queue.ridsOf conn)) (clientConnectionTableRequestDup store.connections other) =
      if other = conn then none else clientConnectionTableRequestDup store.connections other := by
  rw [h.connections, kept_map, ← group_filter]
  have hStays : ∀ r ∈ queue, (staying (queue.ridsOf conn) r.rid = true ↔ r.conn ≠ some conn) := by
    intro r hMem
    rw [staying, decide_eq_true_eq, h.mem_ridsOf hMem]
  have hFilter : (queue.filter fun r => staying (queue.ridsOf conn) r.rid).filter
      (fun r => r.conn = some other) = if other = conn then [] else queue.filter fun r => r.conn = some other := by
    rw [List.filter_filter]
    split
    · rename_i hEq
      subst hEq
      refine List.filter_eq_nil_iff.mpr fun r hMem => ?_
      rw [Bool.and_eq_true, hStays r hMem, decide_eq_true_eq]
      exact fun hBoth => hBoth.2 hBoth.1
    · rename_i hNe
      refine List.filter_congr fun r hMem => ?_
      rw [Bool.eq_iff_iff, Bool.and_eq_true, hStays r hMem, decide_eq_true_eq]
      refine and_iff_left_of_imp fun hConn hEq => hNe ?_
      exact Option.some.inj (hConn.symm.trans hEq)
  rw [group_eq, group_eq, hFilter]
  split
  · rfl
  · rfl

theorem dropEntries_eq (h : store.Indexes queue) (ctx : DropConnContext) (fresh : Rid → Rid)
    (proxyName : ProxyName) :
    dropEntries ctx store conn fresh proxyName =
      ((queue.drops ctx.print ctx.registered fresh conn).filter fun r => r.target = some proxyName).map
        QueuedRequest.entry := by
  have hListed : ∀ r ∈ queue, (ListedUnder store.proxynames proxyName r.rid ↔ r.proxyName = proxyName) := by
    intro r hMem
    rw [h.listedUnder_iff]
    constructor
    · rintro ⟨other, hOther, hRid, hName⟩
      rwa [← List.inj_on_of_nodup_map h.distinct hOther hMem hRid]
    · exact fun hName => ⟨r, hMem, rfl, hName⟩
  rw [dropEntries, h.uuidsOf_eq, RequestQueue.ridsOf, RequestQueue.drops, List.filter_map, List.map_map,
    List.filter_filter, List.filter_map, List.map_map, List.filter_filter]
  split
  · rename_i hRegistered
    have hSame : queue.filter (fun r => (decide (ListedUnder store.proxynames proxyName r.rid)) &&
        decide (r.conn = some conn)) = queue.filter fun r => (decide (r.target = some proxyName)) &&
          (decide (r.conn = some conn) && ctx.registered r.proxyName) := by
      refine List.filter_congr fun r hMem => ?_
      rw [Bool.eq_iff_iff]
      simp only [Bool.and_eq_true, decide_eq_true_eq, hListed r hMem, QueuedRequest.target, Option.some.injEq]
      constructor
      · rintro ⟨rfl, hConn⟩
        exact ⟨rfl, hConn, hRegistered⟩
      · rintro ⟨hName, hConn, -⟩
        exact ⟨hName, hConn⟩
    exact congrArg (List.map fun r => (fresh r.rid, false)) hSame
  · rename_i hNot
    symm
    rw [List.map_eq_nil_iff, List.filter_eq_nil_iff]
    intro r _ hBoth
    simp only [Function.comp_def, Bool.and_eq_true, decide_eq_true_eq, QueuedRequest.target,
      Option.some.injEq] at hBoth
    obtain ⟨rfl, -, hRegistered⟩ := hBoth
    exact hNot hRegistered

/-- The requests of the connection can be taken out as a whole. -/
theorem exists_removed_ridsOf (h : store.Indexes queue) (ctx : DropConnContext) (conn : Conn) :
    ∃ left, store.Removed (queue.ridsOf conn) left ∧ left.connections = store.connections.remove conn := by
  have hOne : OneProxyEach store.proxynames := h.agreement.proxyname_unique
  have hRemoved := removedRequests_dropConnCollect ctx hOne HashTable.empty (queue.ridsOf conn)
  refine ⟨{ (dropConnCollect ctx store HashTable.empty (queue.ridsOf conn)).1 with
    connections := store.connections.remove conn }, ⟨⟨hRemoved.requests, hRemoved.services,
      hRemoved.proxynames⟩, fun other => ?_⟩, rfl⟩
  rw [h.kept_requestDup, clientConnectionTableRequestDup, HashTable.lookup_remove]
  split <;> rfl

theorem mem_drops {print : Printer} {registered : ProxyName → Bool} {fresh : Rid → Rid} {r : QueuedRequest} :
    r ∈ queue.drops print registered fresh conn ↔
      ∃ dropped ∈ queue, dropped.conn = some conn ∧ registered dropped.proxyName = true ∧
        r = ⟨fresh dropped.rid, none, dropped.proxyName, requestDropText print dropped.rid, false⟩ := by
  simp only [RequestQueue.drops, List.mem_map, List.mem_filter, Bool.and_eq_true, decide_eq_true_eq]
  constructor
  · rintro ⟨dropped, ⟨hMem, hConn, hRegistered⟩, rfl⟩
    exact ⟨dropped, hMem, hConn, hRegistered, rfl⟩
  · rintro ⟨dropped, hMem, hConn, hRegistered, rfl⟩
    exact ⟨dropped, ⟨hMem, hConn, hRegistered⟩, rfl⟩

theorem nodup_drops (h : store.Indexes queue) {print : Printer} {registered : ProxyName → Bool}
    {fresh : Rid → Rid}
    (hInjective : ∀ r ∈ queue, r.conn = some conn → registered r.proxyName = true →
      ∀ other ∈ queue, other.conn = some conn → registered other.proxyName = true →
        fresh r.rid = fresh other.rid → r.rid = other.rid) :
    ((queue.drops print registered fresh conn).map QueuedRequest.rid).Nodup := by
  rw [RequestQueue.drops, List.map_map]
  refine List.Nodup.map_on ?_ ((List.Nodup.of_map _ h.distinct).filter _)
  intro r hR other hOther hEq
  simp only [List.mem_filter, Bool.and_eq_true, decide_eq_true_eq] at hR hOther
  exact List.inj_on_of_nodup_map h.distinct hR.1 hOther.1
    (hInjective r hR.1 hR.2.1 hR.2.2 other hOther.1 hOther.2.1 hOther.2.2 hEq)

theorem closed (h : store.Indexes queue) (ctx : DropConnContext) {fresh : Rid → Rid}
    (hClosed : ConnectionClosed ctx store conn fresh store') :
    store'.Indexes (queue.close ctx.print ctx.registered fresh conn) := by
  obtain ⟨left, hRemoved, hConnections⟩ := h.exists_removed_ridsOf ctx conn
  have hLeft := h.removed hRemoved
  have hUuids := h.uuidsOf_eq conn
  have hAt : ∀ r ∈ queue, r.conn = some conn → ctx.registered r.proxyName = true →
      r.rid ∈ store.uuidsOf conn ∧ AtRegistered ctx store r.rid := by
    intro r hMem hConn hRegistered
    rw [hUuids, h.mem_ridsOf hMem]
    exact ⟨hConn, r.proxyName, hRegistered, h.listedUnder_iff.mpr ⟨r, hMem, rfl, rfl⟩⟩
  have hFresh : ∀ r ∈ queue.drops ctx.print ctx.registered fresh conn, store.Absent r.rid := by
    intro r hMem
    obtain ⟨dropped, hIn, hConn, hRegistered, rfl⟩ := mem_drops.mp hMem
    obtain ⟨hUuid, hReg⟩ := hAt dropped hIn hConn hRegistered
    exact hClosed.fresh_new _ hUuid hReg
  refine hLeft.arrived ?_ (fun rid hRid => ?_) (fun r hMem => ?_) (fun other => ?_) (fun proxyName => ?_)
  · rw [List.map_append]
    refine List.Nodup.append hLeft.distinct (h.nodup_drops ?_) ?_
    · intro r hR hConn hReg other hOther hConn' hReg' hEq
      obtain ⟨hUuid, hAtR⟩ := hAt r hR hConn hReg
      obtain ⟨hUuid', hAtOther⟩ := hAt other hOther hConn' hReg'
      exact hClosed.fresh_injective _ hUuid hAtR _ hUuid' hAtOther hEq
    · rintro rid hOld hNew
      obtain ⟨r, hMem, rfl⟩ := List.mem_map.mp hNew
      have hNone := h.absent_iff.mp (hFresh r hMem)
      exact row_eq_none_iff.mp hNone ((List.filter_sublist.map _).subset hOld)
  · rw [hRemoved.requests, hRemoved.services, hClosed.requests, hUuids]
    refine ⟨rfl, ?_⟩
    split
    · rename_i hGone
      exact hClosed.removed rid (hUuids ▸ hGone)
    · rename_i hStays
      refine hClosed.services rid (hUuids ▸ hStays) ?_
      rintro dropped hUuid ⟨proxyName, hReg, hListed⟩ rfl
      obtain ⟨r, hR, rfl, rfl⟩ := h.listedUnder_iff.mp hListed
      rw [hUuids, h.mem_ridsOf hR] at hUuid
      exact hRid (List.mem_map.mpr ⟨_, mem_drops.mpr ⟨r, hR, hUuid, hReg, rfl⟩, rfl⟩)
  · have hAbsent := hFresh r hMem
    obtain ⟨dropped, hIn, hConn, hReg, rfl⟩ := mem_drops.mp hMem
    obtain ⟨hUuid, hAtR⟩ := hAt dropped hIn hConn hReg
    obtain ⟨text, hText, hDrop⟩ := hClosed.asked _ hUuid hAtR
    refine ⟨?_, hText.trans (congrArg some (dropText_iff.mp hDrop))⟩
    rw [hClosed.requests, hAbsent.requests, ite_self]
  · have hNil : (queue.drops ctx.print ctx.registered fresh conn).filter (fun r => r.conn = some other) = [] := by
      refine List.filter_eq_nil_iff.mpr fun r hMem => ?_
      obtain ⟨dropped, -, -, -, rfl⟩ := mem_drops.mp hMem
      simp [QueuedRequest.conn]
    rw [hNil, List.map_nil, extended_nil, clientConnectionTableRequestDup, clientConnectionTableRequestDup,
      hClosed.connections, hConnections, HashTable.lookup_remove]
  · rw [hClosed.proxynames, h.dropEntries_eq, hRemoved.proxynames, hUuids]

end RequestStore.Indexes

end Gonggo
