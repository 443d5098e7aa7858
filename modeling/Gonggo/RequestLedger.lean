import Gonggo.ProxySubscribe
import Mathlib.Logic.Function.Basic

/-! # The request ledger

What the four tables are for: at most one outstanding request per id, sent to one proxy and owned
by the connection it came from, or by nobody when the dispatcher itself asks a proxy to drop a
request. The tables represent a ledger, and each operation on them is an update of that ledger.
-/

namespace Gonggo

structure LedgerEntry where
  owner : Option Conn
  proxyName : ProxyName

abbrev Ledger := Rid → Option LedgerEntry

namespace Ledger

def owner (ledger : Ledger) (rid : Rid) : Option Conn := (ledger rid).bind LedgerEntry.owner

def proxyName (ledger : Ledger) (rid : Rid) : Option ProxyName :=
  (ledger rid).map LedgerEntry.proxyName

def record (ledger : Ledger) (rid : Rid) (entry : LedgerEntry) : Ledger :=
  Function.update ledger rid (some entry)

def forget (ledger : Ledger) (rid : Rid) : Ledger := Function.update ledger rid none

theorem record_apply (ledger : Ledger) (rid other : Rid) (entry : LedgerEntry) :
    ledger.record rid entry other = if other = rid then some entry else ledger other := by
  rw [record, Function.update_apply]

theorem forget_apply (ledger : Ledger) (rid other : Rid) :
    ledger.forget rid other = if other = rid then none else ledger other := by
  rw [forget, Function.update_apply]

theorem owner_record (ledger : Ledger) (rid other : Rid) (entry : LedgerEntry) :
    (ledger.record rid entry).owner other =
      if other = rid then entry.owner else ledger.owner other := by
  unfold owner
  rw [record_apply]
  split <;> rfl

theorem proxyName_record (ledger : Ledger) (rid other : Rid) (entry : LedgerEntry) :
    (ledger.record rid entry).proxyName other =
      if other = rid then some entry.proxyName else ledger.proxyName other := by
  unfold proxyName
  rw [record_apply]
  split <;> rfl

theorem owner_forget (ledger : Ledger) (rid other : Rid) :
    (ledger.forget rid).owner other = if other = rid then none else ledger.owner other := by
  unfold owner
  rw [forget_apply]
  split <;> rfl

theorem proxyName_forget (ledger : Ledger) (rid other : Rid) :
    (ledger.forget rid).proxyName other = if other = rid then none else ledger.proxyName other := by
  unfold proxyName
  rw [forget_apply]
  split <;> rfl

theorem owner_eq_none {ledger : Ledger} {rid : Rid} (h : ledger rid = none) :
    ledger.owner rid = none := by
  rw [owner, h]
  rfl

theorem proxyName_eq_none {ledger : Ledger} {rid : Rid} (h : ledger rid = none) :
    ledger.proxyName rid = none := by
  rw [proxyName, h]
  rfl

end Ledger

/-- The three tables keyed by request or proxy represent the ledger. -/
structure RequestStore.RepresentsRequests (store : RequestStore) (ledger : Ledger) : Prop where
  requests : ∀ rid,
    (store.requests.lookup rid).map ClientRequestTableContext.conn = ledger.owner rid
  services : ∀ rid, (∃ text, store.services.lookup rid = some text) ↔ ledger rid ≠ none
  proxynames : ∀ proxyName rid,
    ListedUnder store.proxynames proxyName rid ↔ ledger.proxyName rid = some proxyName

structure RequestStore.Represents (store : RequestStore) (ledger : Ledger) : Prop
    extends store.RepresentsRequests ledger where
  connections : ∀ conn rid, ListedIn store.connections conn rid ↔ ledger.owner rid = some conn

namespace RequestStore

variable {store store' : RequestStore} {ledger : Ledger}

theorem represents_empty : RequestStore.empty.Represents fun _ => none where
  requests _ := by simp [RequestStore.empty, Ledger.owner]
  services _ := by simp [RequestStore.empty]
  proxynames _ _ := by simp [RequestStore.empty, ListedUnder, EntryOf, Ledger.proxyName]
  connections _ _ := by simp [RequestStore.empty, ListedIn, Ledger.owner]

theorem RepresentsRequests.unique (h : store.RepresentsRequests ledger) (rid : Rid) :
    ∀ m n, ListedUnder store.proxynames m rid → ListedUnder store.proxynames n rid → m = n := by
  intro m n hm hn
  have hm := (h.proxynames m rid).mp hm
  have hn := (h.proxynames n rid).mp hn
  exact Option.some.inj (hm.symm.trans hn)

/-- Any update that takes one id out of the three tables forgets it in the ledger. -/
theorem RepresentsRequests.forget (h : store.RepresentsRequests ledger) (rid : Rid)
    (hRequests : ∀ other, (store'.requests.lookup other).map ClientRequestTableContext.conn =
      if other = rid then none else (store.requests.lookup other).map ClientRequestTableContext.conn)
    (hServices : ∀ other, store'.services.lookup other =
      if other = rid then none else store.services.lookup other)
    (hProxynames : ∀ proxyName other, ListedUnder store'.proxynames proxyName other ↔
      ListedUnder store.proxynames proxyName other ∧ other ≠ rid) :
    store'.RepresentsRequests (ledger.forget rid) where
  requests other := by rw [hRequests, Ledger.owner_forget, h.requests]
  services other := by
    rw [hServices, Ledger.forget_apply]
    split
    · simp
    · exact h.services other
  proxynames proxyName other := by
    rw [hProxynames, Ledger.proxyName_forget, h.proxynames]
    split
    · rename_i hEq
      simp [hEq]
    · rename_i hNe
      simp [hNe]

theorem Represents.forget (h : store.Represents ledger) (rid : Rid)
    (hForget : store'.RepresentsRequests (ledger.forget rid))
    (hConnections : ∀ conn other, ListedIn store'.connections conn other ↔
      ListedIn store.connections conn other ∧ other ≠ rid) :
    store'.Represents (ledger.forget rid) where
  toRepresentsRequests := hForget
  connections conn other := by
    rw [hConnections, Ledger.owner_forget, h.connections]
    split
    · rename_i hEq
      simp [hEq]
    · rename_i hNe
      simp [hNe]

theorem Represents.listedIn_dropFromConnection (h : store.Represents ledger) (rid : Rid) (conn : Conn)
    (other : Rid) :
    ListedIn (dropFromConnection store.connections
        ((store.requests.lookup rid).map ClientRequestTableContext.conn) rid) conn other ↔
      ListedIn store.connections conn other ∧ other ≠ rid := by
  rw [h.requests]
  cases hOwner : ledger.owner rid with
  | none =>
    refine ⟨fun hListed => ⟨hListed, ?_⟩, And.left⟩
    rintro rfl
    rw [dropFromConnection, h.connections, hOwner] at hListed
    cases hListed
  | some owner =>
    rw [dropFromConnection, listedIn_clientConnectionTableDrop]
    refine and_congr_right fun hListed => not_congr ⟨And.right, ?_⟩
    rintro rfl
    rw [h.connections, hOwner] at hListed
    exact ⟨(Option.some.inj hListed).symm, rfl⟩

/-! ## The operations as ledger updates -/

theorem Represents.saveRequest (h : store.Represents ledger) (print : Printer) (conn : Conn) (rid : Rid)
    (proxyName : ProxyName) (serviceName : String) (payload : Option CJson) (timeout now : Time)
    (hFresh : ledger rid = none) :
    (store.saveRequest print conn rid proxyName serviceName payload timeout now).Represents
      (ledger.record rid ⟨some conn, proxyName⟩) where
  requests other := by
    rw [RequestStore.saveRequest, lookup_clientRequestTableSet, Ledger.owner_record]
    split
    · rfl
    · exact h.requests other
  services other := by
    rw [RequestStore.saveRequest, lookup_clientServiceTableSet, Ledger.record_apply]
    split
    · simp
    · exact h.services other
  proxynames name other := by
    rw [RequestStore.saveRequest, listedUnder_clientProxynameTableSet, Ledger.proxyName_record,
      h.proxynames]
    split
    · rename_i hEq
      subst hEq
      simp [Ledger.proxyName_eq_none hFresh, eq_comm]
    · rename_i hNe
      simp [hNe]
  connections c other := by
    rw [RequestStore.saveRequest, listedIn_clientConnectionTableSet, Ledger.owner_record,
      h.connections]
    split
    · rename_i hEq
      subst hEq
      simp [Ledger.owner_eq_none hFresh, eq_comm]
    · rename_i hNe
      simp [hNe]

theorem RepresentsRequests.saveRequestDrop (h : store.RepresentsRequests ledger) (print : Printer)
    (proxyName : ProxyName) (rid requestUuid : Rid) (hFresh : ledger rid = none) :
    (store.saveRequestDrop print proxyName rid requestUuid).RepresentsRequests
      (ledger.record rid ⟨none, proxyName⟩) where
  requests other := by
    rw [RequestStore.saveRequestDrop, Ledger.owner_record]
    split
    · rename_i hEq
      subst hEq
      exact (h.requests other).trans (Ledger.owner_eq_none hFresh)
    · exact h.requests other
  services other := by
    rw [RequestStore.saveRequestDrop, lookup_clientServiceTableSet, Ledger.record_apply]
    split
    · simp
    · exact h.services other
  proxynames name other := by
    rw [RequestStore.saveRequestDrop, listedUnder_clientProxynameTableSet, Ledger.proxyName_record,
      h.proxynames]
    split
    · rename_i hEq
      subst hEq
      simp [Ledger.proxyName_eq_none hFresh, eq_comm]
    · rename_i hNe
      simp [hNe]

theorem RepresentsRequests.removeRequest (h : store.RepresentsRequests ledger)
    (order : Traversal ProxyName) (rid : Rid) :
    (store.removeRequest order rid).RepresentsRequests (ledger.forget rid) := by
  refine h.forget rid ?_ ?_ ?_
  · intro other
    rw [RequestStore.removeRequest, clientRequestTableRemove, HashTable.lookup_remove]
    split <;> rfl
  · exact HashTable.lookup_remove store.services rid
  · exact listedUnder_clientProxynameTableDropAll store.proxynames order rid (h.unique rid)

theorem Represents.purge (h : store.Represents ledger) (order : Traversal ProxyName) (rid : Rid) :
    (proxySubscribePurgeRid order store rid).Represents (ledger.forget rid) := by
  refine h.forget rid (h.toRepresentsRequests.forget rid ?_ ?_ ?_) ?_
  · intro other
    rw [proxySubscribePurgeRid, lookup_clientRequestTableGetConn_remove]
    split <;> rfl
  · exact HashTable.lookup_remove store.services rid
  · exact listedUnder_clientProxynameTableDropAll store.proxynames order rid (h.unique rid)
  · intro conn other
    rw [proxySubscribePurgeRid, clientRequestTableGetConn_conn]
    exact h.listedIn_dropFromConnection rid conn other

theorem Represents.timeoutRequest {d : Dispatcher} (h : d.store.Represents ledger) (ctx : TimeoutContext)
    (rid : Rid) : (clientTimeoutRequest ctx d rid).store.Represents (ledger.forget rid) := by
  refine h.forget rid (h.toRepresentsRequests.forget rid ?_ ?_ ?_) ?_
  · intro other
    rw [clientTimeoutRequest, clientRequestTableRemove, HashTable.lookup_remove]
    split <;> rfl
  · exact HashTable.lookup_remove d.store.services rid
  · exact listedUnder_clientProxynameTableDropAll d.store.proxynames (ctx.dropOrder rid) rid
      (h.unique rid)
  · intro conn other
    rw [clientTimeoutRequest, clientRequestTableGetConn_conn]
    exact h.listedIn_dropFromConnection rid conn other

/-- An answer that keeps its request changes at most a timestamp. -/
theorem Represents.answerKeep (h : store.Represents ledger) (proxyName : ProxyName) (rid : Rid)
    (now : Time) : (store.answerRequest proxyName rid false now).Represents ledger where
  requests other := by
    rw [RequestStore.answerRequest, ← h.requests]
    exact conn_clientRequestTableGetConn_keep store.requests rid other true now
  services := h.services
  proxynames := h.proxynames
  connections := h.connections

/-- An answer with removal reaches every table when the id is under the answering proxy, or
nowhere. -/
theorem Represents.answerRemove (h : store.Represents ledger) (proxyName : ProxyName) (rid : Rid)
    (now : Time) (hOwn : ledger.proxyName rid = some proxyName ∨ ledger rid = none) :
    (store.answerRequest proxyName rid true now).Represents (ledger.forget rid) := by
  refine h.forget rid (h.toRepresentsRequests.forget rid ?_ ?_ ?_) ?_
  · intro other
    rw [RequestStore.answerRequest, if_pos rfl, lookup_clientRequestTableGetConn_remove]
    split <;> rfl
  · exact HashTable.lookup_remove store.services rid
  · intro name other
    rw [RequestStore.answerRequest, if_pos rfl, listedUnder_clientProxynameTableDrop]
    refine and_congr_right fun hListed => not_congr ⟨And.right, ?_⟩
    rintro rfl
    have hName := (h.proxynames name other).mp hListed
    rcases hOwn with hOwn | hOwn
    · exact ⟨Option.some.inj (hName.symm.trans hOwn), rfl⟩
    · rw [Ledger.proxyName_eq_none hOwn] at hName
      cases hName
  · intro conn other
    rw [RequestStore.answerRequest, if_pos rfl, clientRequestTableGetConn_conn]
    exact h.listedIn_dropFromConnection rid conn other

theorem Represents.ofListedUnder (h : store.Represents ledger) {proxynames : ClientProxynameTable}
    (hProxynames : ∀ proxyName rid, ListedUnder proxynames proxyName rid ↔
      ListedUnder store.proxynames proxyName rid) :
    { store with proxynames := proxynames }.Represents ledger where
  requests := h.requests
  services := h.services
  proxynames proxyName rid := (hProxynames proxyName rid).trans (h.proxynames proxyName rid)
  connections := h.connections

end RequestStore

/-! ## Closing a connection -/

namespace Ledger

def forgetAll (ledger : Ledger) (rids : List Rid) : Ledger := rids.foldl forget ledger

/-- The drop requests that the dispatcher records for itself under generated ids. -/
def recordDrops (uuidGenerate : Nat → Rid) (ledger : Ledger) (drawn : Nat) :
    List (ProxyName × Rid) → Ledger
  | [] => ledger
  | (proxyName, _) :: rest =>
      recordDrops uuidGenerate (ledger.record (uuidGenerate drawn) ⟨none, proxyName⟩) (drawn + 1) rest

theorem forgetAll_apply (ledger : Ledger) (rids : List Rid) (other : Rid) :
    ledger.forgetAll rids other = if other ∈ rids then none else ledger other := by
  induction rids generalizing ledger with
  | nil => simp [forgetAll]
  | cons rid rids ih =>
    have hStep : ledger.forgetAll (rid :: rids) = (ledger.forget rid).forgetAll rids := rfl
    rw [hStep, ih, forget_apply]
    by_cases h : other = rid <;> simp [h]

theorem owner_forgetAll (ledger : Ledger) (rids : List Rid) (other : Rid) :
    (ledger.forgetAll rids).owner other = if other ∈ rids then none else ledger.owner other := by
  unfold owner
  rw [forgetAll_apply]
  split <;> rfl

theorem recordDrops_apply (uuidGenerate : Nat → Rid) (ledger : Ledger) (drawn : Nat)
    (targets : List (ProxyName × Rid)) {other : Rid}
    (h : other ∉ (List.range' drawn targets.length).map uuidGenerate) :
    ledger.recordDrops uuidGenerate drawn targets other = ledger other := by
  induction targets generalizing ledger drawn with
  | nil => rfl
  | cons target rest ih =>
    rw [List.length_cons, List.range'_succ, List.map_cons, List.mem_cons, not_or] at h
    rw [recordDrops, ih _ _ h.2, record_apply, if_neg h.1]

theorem owner_recordDrops (uuidGenerate : Nat → Rid) (ledger : Ledger) (drawn : Nat)
    (targets : List (ProxyName × Rid))
    (hFresh : ∀ rid ∈ (List.range' drawn targets.length).map uuidGenerate, ledger.owner rid = none)
    (other : Rid) : (ledger.recordDrops uuidGenerate drawn targets).owner other = ledger.owner other := by
  induction targets generalizing ledger drawn with
  | nil => rfl
  | cons target rest ih =>
    rw [List.length_cons, List.range'_succ, List.map_cons, List.forall_mem_cons] at hFresh
    have hOwner : ∀ rid, (ledger.record (uuidGenerate drawn) ⟨none, target.1⟩).owner rid =
        ledger.owner rid := by
      intro rid
      rw [owner_record]
      split
      · rename_i h
        rw [h, hFresh.1]
      · rfl
    rw [recordDrops, ih, hOwner]
    intro rid hRid
    rw [hOwner]
    exact hFresh.2 rid hRid

end Ledger

namespace RequestStore

variable {store : RequestStore} {ledger : Ledger}

theorem RepresentsRequests.dropConnCollect (h : store.RepresentsRequests ledger) (ctx : DropConnContext)
    (grouped : ClientProxynameTable) (rids : List Rid) :
    (dropConnCollect ctx store grouped rids).1.RepresentsRequests (ledger.forgetAll rids) := by
  induction rids generalizing store ledger grouped with
  | nil => exact h
  | cons rid rids ih => exact ih (h.removeRequest (ctx.dropOrder rid) rid) _

theorem connections_dropConnCollect (ctx : DropConnContext) (store : RequestStore)
    (grouped : ClientProxynameTable) (rids : List Rid) :
    (dropConnCollect ctx store grouped rids).1.connections = store.connections := by
  induction rids generalizing store grouped with
  | nil => rfl
  | cons rid rids ih => exact ih (store.removeRequest (ctx.dropOrder rid) rid) _

theorem RepresentsRequests.dropConnCreate (h : store.RepresentsRequests ledger) (ctx : DropConnContext)
    (drawn : Nat) (targets : List (ProxyName × Rid))
    (hNodup : ((List.range' drawn targets.length).map ctx.uuidGenerate).Nodup)
    (hFresh : ∀ rid ∈ (List.range' drawn targets.length).map ctx.uuidGenerate, ledger rid = none) :
    (dropConnCreate ctx store drawn targets).RepresentsRequests
      (ledger.recordDrops ctx.uuidGenerate drawn targets) := by
  induction targets generalizing store ledger drawn with
  | nil => exact h
  | cons target rest ih =>
    rw [List.length_cons, List.range'_succ, List.map_cons] at hNodup hFresh
    obtain ⟨hHead, hTail⟩ := List.nodup_cons.mp hNodup
    rw [List.forall_mem_cons] at hFresh
    refine ih (h.saveRequestDrop ctx.print target.1 (ctx.uuidGenerate drawn) target.2 hFresh.1) _ hTail ?_
    intro rid hRid
    rw [Ledger.record_apply, if_neg (ne_of_mem_of_not_mem hRid hHead)]
    exact hFresh.2 rid hRid

theorem connections_dropConnCreate (ctx : DropConnContext) (store : RequestStore) (drawn : Nat)
    (targets : List (ProxyName × Rid)) :
    (dropConnCreate ctx store drawn targets).connections = store.connections := by
  induction targets generalizing store drawn with
  | nil => rfl
  | cons target rest ih =>
    exact ih (store.saveRequestDrop ctx.print target.1 (ctx.uuidGenerate drawn) target.2) _

/-- Closing a connection forgets its requests and records the drop requests. -/
theorem Represents.dropConn (h : store.Represents ledger) (ctx : DropConnContext) (conn : Conn)
    (hNodup : (dropConnDrawn ctx store conn).Nodup)
    (hFresh : ∀ rid ∈ dropConnDrawn ctx store conn, ledger rid = none) :
    ∃ ledger', (clientServiceDropConn ctx store conn).Represents ledger' ∧
      ∀ rid, ledger' rid ≠ none → ledger rid ≠ none ∨ rid ∈ dropConnDrawn ctx store conn := by
  unfold clientServiceDropConn dropConnDrawn at *
  cases hDup : clientConnectionTableRequestDup store.connections conn with
  | none => exact ⟨ledger, h, fun _ => .inl⟩
  | some uuids =>
    simp only [hDup, List.range_eq_range'] at hNodup hFresh ⊢
    set collected := dropConnCollected ctx store uuids with hCollected
    set targets := dropConnTargets ctx collected.2
    have hForget : collected.1.RepresentsRequests (ledger.forgetAll uuids) :=
      h.toRepresentsRequests.dropConnCollect ctx HashTable.empty uuids
    have hDrawn : ∀ rid ∈ (List.range' 0 targets.length).map ctx.uuidGenerate,
        ledger.forgetAll uuids rid = none := by
      intro rid hRid
      rw [Ledger.forgetAll_apply, hFresh rid hRid, ite_self]
    have hUuids : ∀ rid, ListedIn store.connections conn rid ↔ rid ∈ uuids := by
      obtain ⟨arr, hArr, rfl⟩ := Option.map_eq_some_iff.mp hDup
      intro rid
      simp [ListedIn, hArr]
    have hCreate := hForget.dropConnCreate ctx 0 targets hNodup hDrawn
    refine ⟨(ledger.forgetAll uuids).recordDrops ctx.uuidGenerate 0 targets,
      ⟨⟨hCreate.requests, hCreate.services, hCreate.proxynames⟩, ?_⟩, ?_⟩
    · intro c rid
      rw [Ledger.owner_recordDrops _ _ _ _ fun rid hRid => Ledger.owner_eq_none (hDrawn rid hRid)]
      rw [clientConnectionTableRemove, listedIn_remove, connections_dropConnCreate, hCollected,
        dropConnCollected, connections_dropConnCollect, Ledger.owner_forgetAll, h.connections]
      split
      · rename_i hMem
        rw [← hUuids, h.connections] at hMem
        rw [hMem]
        simp [eq_comm]
      · rename_i hMem
        rw [← hUuids, h.connections] at hMem
        refine ⟨And.right, fun hc => ⟨?_, hc⟩⟩
        rintro rfl
        exact hMem hc
    · intro rid hRid
      by_cases hMem : rid ∈ (List.range' 0 targets.length).map ctx.uuidGenerate
      · exact .inr hMem
      · rw [Ledger.recordDrops_apply _ _ _ _ hMem, Ledger.forgetAll_apply] at hRid
        exact .inl fun hNone => hRid (by rw [hNone, ite_self])

end RequestStore

end Gonggo
