import Gonggo.StoreAgreement

/-! # Isolation between clients

What a client can do to the request of another one. Request ids are chosen by the clients and the
tables are keyed by them alone, so a client reaches exactly the requests whose id it names itself:
by submitting the id again, or by closing a connection that still lists it.
-/

namespace Gonggo

/-- The row of the request, its service text and its entries under every proxy are unchanged. -/
structure SameRequest (rid : Rid) (store store' : RequestStore) : Prop where
  requests : store'.requests.lookup rid = store.requests.lookup rid
  services : store'.services.lookup rid = store.services.lookup rid
  proxynames : ∀ proxyName sent, EntryOf store'.proxynames proxyName rid sent ↔
    EntryOf store.proxynames proxyName rid sent

namespace SameRequest

variable {rid : Rid} {store : RequestStore}

theorem refl (rid : Rid) (store : RequestStore) : SameRequest rid store store :=
  ⟨rfl, rfl, fun _ _ => .rfl⟩

theorem trans {store₁ store₂ store₃ : RequestStore} (h : SameRequest rid store₁ store₂)
    (h' : SameRequest rid store₂ store₃) : SameRequest rid store₁ store₃ where
  requests := h'.requests.trans h.requests
  services := h'.services.trans h.services
  proxynames proxyName sent := (h'.proxynames proxyName sent).trans (h.proxynames proxyName sent)

theorem saveRequest (store : RequestStore) (print : Printer) (conn : Conn) {other : Rid}
    (proxyName : ProxyName) (serviceName : String) (payload : Option CJson) (timeout now : Time)
    (h : rid ≠ other) :
    SameRequest rid store
      (store.saveRequest print conn other proxyName serviceName payload timeout now) where
  requests := by rw [RequestStore.saveRequest, lookup_clientRequestTableSet, if_neg h]
  services := by rw [RequestStore.saveRequest, lookup_clientServiceTableSet, if_neg h]
  proxynames name sent := by
    rw [RequestStore.saveRequest, entryOf_clientProxynameTableSet]
    simp [h]

theorem removeRequest (store : RequestStore) (order : Traversal ProxyName) {other : Rid}
    (h : rid ≠ other) : SameRequest rid store (store.removeRequest order other) where
  requests := HashTable.lookup_remove_ne _ h
  services := HashTable.lookup_remove_ne _ h
  proxynames name sent :=
    entryOf_clientProxynameTableDropAll_ne store.proxynames order other name h sent

theorem saveRequestDrop (store : RequestStore) (print : Printer) (proxyName : ProxyName)
    {other : Rid} (requestUuid : Rid) (h : rid ≠ other) :
    SameRequest rid store (store.saveRequestDrop print proxyName other requestUuid) where
  requests := rfl
  services := by rw [RequestStore.saveRequestDrop, lookup_clientServiceTableSet, if_neg h]
  proxynames name sent := by
    rw [RequestStore.saveRequestDrop, entryOf_clientProxynameTableSet]
    simp [h]

theorem dropConnCollect (ctx : DropConnContext) (store : RequestStore) (grouped : ClientProxynameTable)
    {rids : List Rid} (h : rid ∉ rids) :
    SameRequest rid store (dropConnCollect ctx store grouped rids).1 := by
  induction rids generalizing store grouped with
  | nil => exact refl rid store
  | cons other rids ih =>
    rw [List.mem_cons, not_or] at h
    exact (removeRequest store (ctx.dropOrder other) h.1).trans (ih _ _ h.2)

theorem dropConnCreate (ctx : DropConnContext) (store : RequestStore) (drawn : Nat)
    {targets : List (ProxyName × Rid)}
    (h : rid ∉ (List.range' drawn targets.length).map ctx.uuidGenerate) :
    SameRequest rid store (dropConnCreate ctx store drawn targets) := by
  induction targets generalizing store drawn with
  | nil => exact refl rid store
  | cons target rest ih =>
    rw [List.length_cons, List.range'_succ, List.map_cons, List.mem_cons, not_or] at h
    exact (saveRequestDrop store ctx.print target.1 target.2 h.1).trans (ih _ _ h.2)

theorem dropConn (ctx : DropConnContext) (store : RequestStore) {conn : Conn}
    (hDrawn : rid ∉ dropConnDrawn ctx store conn) (hListed : ¬ ListedIn store.connections conn rid) :
    SameRequest rid store (clientServiceDropConn ctx store conn) := by
  unfold dropConnDrawn at hDrawn
  unfold clientServiceDropConn
  cases hDup : clientConnectionTableRequestDup store.connections conn with
  | none => exact refl rid store
  | some uuids =>
    simp only [hDup, List.range_eq_range'] at hDrawn
    obtain ⟨arr, hArr, rfl⟩ := Option.map_eq_some_iff.mp hDup
    have hNot : rid ∉ arr.uuids := fun hMem => hListed ⟨arr, hArr, hMem⟩
    have hCollect := dropConnCollect ctx store HashTable.empty hNot
    have h := hCollect.trans (dropConnCreate ctx (dropConnCollected ctx store arr.uuids).1 0 hDrawn)
    exact ⟨h.requests, h.services, h.proxynames⟩

end SameRequest

theorem lookup_requests_dropConnCreate (ctx : DropConnContext) (store : RequestStore) (drawn : Nat)
    (targets : List (ProxyName × Rid)) (rid : Rid) :
    (dropConnCreate ctx store drawn targets).requests.lookup rid = store.requests.lookup rid := by
  induction targets generalizing store drawn with
  | nil => rfl
  | cons target rest ih => exact ih (store.saveRequestDrop ..) _

theorem lookup_requests_dropConnCollect (ctx : DropConnContext) (store : RequestStore)
    (grouped : ClientProxynameTable) (rids : List Rid) (rid : Rid) :
    (dropConnCollect ctx store grouped rids).1.requests.lookup rid =
      if rid ∈ rids then none else store.requests.lookup rid := by
  induction rids generalizing store grouped with
  | nil => rw [if_neg List.not_mem_nil, dropConnCollect]
  | cons other rids ih =>
    rw [dropConnCollect, ih, RequestStore.removeRequest, clientRequestTableRemove,
      HashTable.lookup_remove]
    by_cases h : rid = other <;> simp [h]

/-- Closing a connection removes the row of every request it lists. -/
theorem lookup_requests_clientServiceDropConn (ctx : DropConnContext) (store : RequestStore)
    {conn : Conn} {rid : Rid} (h : ListedIn store.connections conn rid) :
    (clientServiceDropConn ctx store conn).requests.lookup rid = none := by
  obtain ⟨arr, hArr, hMem⟩ := h
  have hDup : clientConnectionTableRequestDup store.connections conn = some arr.uuids := by
    rw [clientConnectionTableRequestDup, hArr]
    rfl
  simp only [clientServiceDropConn, hDup]
  rw [lookup_requests_dropConnCreate, dropConnCollected, lookup_requests_dropConnCollect, if_pos hMem]

/-! ## Lists only name submitted ids -/

/-- No list of the second store names an id that the first one does not. -/
def ListsWithin (store' store : RequestStore) : Prop :=
  ∀ conn rid, ListedIn store'.connections conn rid → ListedIn store.connections conn rid

theorem ListsWithin.refl (store : RequestStore) : ListsWithin store store := fun _ _ => id

theorem ListsWithin.trans {first second third : RequestStore} (h : ListsWithin third second)
    (h' : ListsWithin second first) : ListsWithin third first :=
  fun conn rid hListed => h' conn rid (h conn rid hListed)

theorem listedIn_of_dropFromConnection {table : ClientConnectionTable} {owner : Option Conn}
    {dropped : Rid} {conn : Conn} {rid : Rid}
    (h : ListedIn (dropFromConnection table owner dropped) conn rid) : ListedIn table conn rid := by
  cases owner with
  | none => exact h
  | some owner => exact ((listedIn_clientConnectionTableDrop ..).mp h).1

theorem listsWithin_purge (order : Traversal ProxyName) (store : RequestStore) (rid : Rid) :
    ListsWithin (proxySubscribePurgeRid order store rid) store :=
  fun _ _ => listedIn_of_dropFromConnection

theorem listsWithin_answerRequest (store : RequestStore) (proxyName : ProxyName) (rid : Rid)
    (removeRequest : Bool) (now : Time) :
    ListsWithin (store.answerRequest proxyName rid removeRequest now) store := by
  intro conn other h
  cases removeRequest with
  | false => exact h
  | true => exact listedIn_of_dropFromConnection h

theorem listsWithin_fanOut {ctx : SubscribeContext} {proxyName : ProxyName} {headers : CJson}
    {payload : Option CJson} {removeRequest : Bool} {d d' : Dispatcher} {sent : Nat}
    {items : List CJson}
    (h : proxySubscribeFanOut ctx proxyName headers payload removeRequest d sent items = some d') :
    ListsWithin d'.store d.store := by
  induction items generalizing d sent with
  | nil =>
    rw [proxySubscribeFanOut, Option.some.injEq] at h
    subst h
    exact .refl _
  | cons item rest ih =>
    rw [proxySubscribeFanOut] at h
    cases hRid : item.valuestring with
    | none => simp [hRid, proxySubscribeReply] at h
    | some rid =>
      simp only [hRid, proxySubscribeReply] at h
      refine (ih h).trans ?_
      rw [store_clientServiceReply]
      exact listsWithin_answerRequest d.store proxyName rid removeRequest _

theorem listsWithin_exchange {ctx : SubscribeContext} {d d' : Dispatcher} {proxyName : ProxyName}
    {posted : SubscribeAnswer} {state : ProxySubscribeState}
    (h : proxySubscribeExchange ctx d proxyName posted = some (state, d')) :
    ListsWithin d'.store d.store := by
  unfold proxySubscribeExchange at h
  cases hParsed : parsedAnswer ctx.json posted with
  | none =>
    simp only [hParsed, Option.some.injEq, Prod.mk.injEq] at h
    obtain ⟨-, rfl⟩ := h
    exact .refl _
  | some parsed =>
    obtain ⟨items, headers, payload⟩ := parsed
    simp only [hParsed, Option.map_eq_some_iff, Prod.mk.injEq] at h
    obtain ⟨_, hOut, -, rfl⟩ := h
    refine (listsWithin_fanOut hOut).trans ?_
    unfold purgeCleared
    cases (clearedRid headers payload).join with
    | none => exact .refl _
    | some rid => exact listsWithin_purge ctx.purgeOrder d.store rid

theorem listsWithin_timeoutPass (ctx : TimeoutContext) (d : Dispatcher) :
    ListsWithin (clientTimeoutPass ctx d).store d.store := by
  unfold clientTimeoutPass
  generalize clientRequestTableExpired d.store.requests ctx.expiredOrder ctx.now = expired
  induction expired generalizing d with
  | nil => exact .refl _
  | cons rid rest ih =>
    refine (ih (clientTimeoutRequest ctx d rid)).trans ?_
    exact fun _ _ => listedIn_of_dropFromConnection

theorem listsWithin_dropConn (ctx : DropConnContext) (store : RequestStore) (conn : Conn) :
    ListsWithin (clientServiceDropConn ctx store conn) store := by
  intro c rid h
  unfold clientServiceDropConn at h
  cases hDup : clientConnectionTableRequestDup store.connections conn with
  | none => simpa [hDup] using h
  | some uuids =>
    simp only [hDup, clientConnectionTableRemove] at h
    rw [listedIn_remove, RequestStore.connections_dropConnCreate, dropConnCollected,
      RequestStore.connections_dropConnCollect] at h
    exact h.2

/-- In every run, a connection lists only ids that were submitted through it. -/
theorem mem_submitted_of_listedIn {s : StoreRun} (hReach : storeSystem.Reachable s) {conn : Conn}
    {rid : Rid} (h : ListedIn s.store.connections conn rid) : (conn, rid) ∈ s.submitted := by
  revert conn rid
  refine hReach.invariant (fun s => ∀ {conn rid}, ListedIn s.store.connections conn rid →
    (conn, rid) ∈ s.submitted) ?_ ?_
  · rintro s rfl conn rid ⟨arr, hArr, -⟩
    cases hArr
  · intro s e ih hGuard conn rid hListed
    cases e with
    | route ctx uri data c =>
      change ListedIn (clientServiceRoute ctx s.dispatcher uri data c).store.connections conn rid at hListed
      show (conn, rid) ∈ s.submitted ++ _
      cases hRid : clientServiceRoutedRid ctx uri data with
      | none =>
        rw [store_clientServiceRoute_of_none hRid] at hListed
        exact List.mem_append_left _ (ih hListed)
      | some routed =>
        obtain ⟨_, _, _, _, hStore⟩ := store_clientServiceRoute_of_some hRid s.dispatcher c
        rw [hStore, RequestStore.saveRequest, listedIn_clientConnectionTableSet] at hListed
        rcases hListed with hListed | ⟨rfl, rfl⟩
        · exact List.mem_append_left _ (ih hListed)
        · exact List.mem_append_right _ (by simp)
    | dropConn ctx c => exact ih (listsWithin_dropConn ctx s.store c conn rid hListed)
    | answer ctx proxyName posted =>
      obtain ⟨⟨state, d'⟩, hExchange⟩ := Option.isSome_iff_exists.mp hGuard
      apply ih
      apply listsWithin_exchange hExchange
      simpa [storeSystem, StoreEvent.effect, StoreRun.store, hExchange] using hListed
    | timeoutPass ctx => exact ih (listsWithin_timeoutPass ctx s.dispatcher conn rid hListed)
    | requestSent proxyName other => exact ih hListed
    | requestUnsent proxyName => exact ih hListed

/-! ## What one client can do to another -/

/-- Neither messages nor the closing of one connection touch the requests of another. -/
def ClientsIsolated (s : StoreRun) : Prop :=
  ∀ (a b : Conn) (rid : Rid) (row : ClientRequestTableContext), a ≠ b →
    s.store.requests.lookup rid = some row → row.conn = b →
    (∀ ctx uri data,
      SameRequest rid s.store (clientServiceRoute ctx s.dispatcher uri data a).store) ∧
    ∀ ctx, rid ∉ dropConnDrawn ctx s.store a →
      SameRequest rid s.store (clientServiceDropConn ctx s.store a)

/-- The connection 2 has submitted one request under the id `r1`. -/
def sampleSubmitted : StoreRun :=
  storeSystem.effect ⟨Dispatcher.empty, [], []⟩
    (.route (sampleRouteContext (sampleRequest "r1" "weather" "today") 100) "/gonggo"
      (printUnformatted (sampleRequest "r1" "weather" "today")) 2)

theorem sampleSubmitted_reachable : storeSystem.Reachable sampleSubmitted := by
  unfold sampleSubmitted
  exact .step (.init rfl) trivial trivial

/-- Another client submits the id of an outstanding request again and takes the request over. -/
theorem not_clientsIsolated : ¬ ∀ s, storeSystem.Reachable s → ClientsIsolated s := by
  intro h
  have hSame := (h sampleSubmitted sampleSubmitted_reachable 1 2 "r1" ⟨2, 100, 5⟩ (by decide)
    (by decide) rfl).1 (sampleRouteContext (sampleRequest "r1" "weather" "today") 107) "/gonggo"
      (printUnformatted (sampleRequest "r1" "weather" "today"))
  exact absurd hSame.requests (by decide)

/-- A client changes the request of another one exactly by a proxy request under that id, and by
closing a connection that lists it, which takes an earlier submission through that connection. -/
theorem request_changed_iff {s : StoreRun} (hReach : storeSystem.Reachable s) {a b : Conn} {rid : Rid}
    {row : ClientRequestTableContext} (hNe : a ≠ b) (hRow : s.store.requests.lookup rid = some row)
    (hOwner : row.conn = b) :
    (∀ ctx uri data,
      SameRequest rid s.store (clientServiceRoute ctx s.dispatcher uri data a).store ↔
        clientServiceRoutedRid ctx uri data ≠ some rid) ∧
    (∀ ctx, rid ∉ dropConnDrawn ctx s.store a →
      (SameRequest rid s.store (clientServiceDropConn ctx s.store a) ↔
        ¬ ListedIn s.store.connections a rid)) ∧
    (ListedIn s.store.connections a rid → (a, rid) ∈ s.submitted) := by
  refine ⟨fun ctx uri data => ⟨?_, ?_⟩, fun ctx hDrawn => ⟨?_, SameRequest.dropConn ctx s.store hDrawn⟩,
    mem_submitted_of_listedIn hReach⟩
  · intro hSame hRid
    obtain ⟨_, _, _, _, hStore⟩ := store_clientServiceRoute_of_some hRid s.dispatcher a
    have hRequests := hSame.requests
    rw [hStore, RequestStore.saveRequest, lookup_clientRequestTableSet, if_pos rfl, hRow,
      Option.some.injEq] at hRequests
    rw [← hRequests] at hOwner
    exact hNe hOwner
  · intro hRid
    cases hRouted : clientServiceRoutedRid ctx uri data with
    | none =>
      rw [store_clientServiceRoute_of_none hRouted]
      exact .refl rid s.store
    | some routed =>
      obtain ⟨_, _, _, _, hStore⟩ := store_clientServiceRoute_of_some hRouted s.dispatcher a
      rw [hStore]
      apply SameRequest.saveRequest
      rintro rfl
      exact hRid hRouted
  · intro hSame hListed
    have hRequests := hSame.requests
    rw [lookup_requests_clientServiceDropConn ctx s.store hListed, hRow] at hRequests
    cases hRequests

/-- A client sends a request for the service `today` of the proxy. -/
def sampleSubmit (rid : Rid) (proxyName : ProxyName) (conn : Conn) (now : Time) : StoreEvent :=
  .route (sampleRouteContext (sampleRequest rid proxyName "today") now) "/gonggo"
    (printUnformatted (sampleRequest rid proxyName "today")) conn

def sampleSubmits : List StoreEvent :=
  [sampleSubmit "r1" "weather" 2 100, sampleSubmit "r2" "weather" 1 103, sampleSubmit "r3" "lamp" 2 106]

/-- The connection 2 has submitted `r1` and `r3`, the connection 1 `r2`. -/
def sampleTwoClients : StoreRun := storeSystem.run ⟨Dispatcher.empty, [], []⟩ sampleSubmits

theorem fresh_sampleSubmit {s : StoreRun} {rid : Rid} {proxyName : ProxyName} {conn : Conn} {now : Time}
    (hRouted : clientServiceRoutedRid (sampleRouteContext (sampleRequest rid proxyName "today") now) "/gonggo"
      (printUnformatted (sampleRequest rid proxyName "today")) = some rid)
    (hNew : rid ∉ s.used) : (sampleSubmit rid proxyName conn now).Fresh s := by
  intro other hOther
  rw [hRouted, Option.some.injEq] at hOther
  exact hOther ▸ hNew

theorem sampleTwoClients_reachable : storeSystem.ReachableWhen (fun s e => e.Fresh s) sampleTwoClients :=
  .run (.init rfl) sampleSubmits
    ⟨trivial, fresh_sampleSubmit (by decide) (by decide), trivial, fresh_sampleSubmit (by decide) (by decide),
      trivial, fresh_sampleSubmit (by decide) (by decide), trivial⟩

theorem agreement_sampleTwoClients : sampleTwoClients.store.Agreement := by
  obtain ⟨ledger, hRepresents, -⟩ := ledgered_of_reachable sampleTwoClients_reachable
  exact hRepresents.agreement

/-- The other client sends and closes without changing `r1`, until it uses that id. -/
theorem request_changed_iff_sampleTwoClients :
    SameRequest "r1" sampleTwoClients.store
      (clientServiceDropConn (sampleDropConnContext "u") sampleTwoClients.store 1) ∧
    SameRequest "r1" sampleTwoClients.store
      (clientServiceRoute (sampleRouteContext (sampleRequest "r4" "weather" "today") 107)
        sampleTwoClients.dispatcher "/gonggo" (printUnformatted (sampleRequest "r4" "weather" "today")) 1).store ∧
    ¬ SameRequest "r1" sampleTwoClients.store
      (clientServiceRoute (sampleRouteContext (sampleRequest "r1" "weather" "today") 107)
        sampleTwoClients.dispatcher "/gonggo" (printUnformatted (sampleRequest "r1" "weather" "today")) 1).store := by
  have hRow : sampleTwoClients.store.requests.lookup "r1" = some ⟨2, 100, 5⟩ := by decide
  have hReach := sampleTwoClients_reachable.mono fun _ _ _ => trivial
  obtain ⟨hRoute, hClose, -⟩ := request_changed_iff hReach (show 1 ≠ 2 by decide) hRow rfl
  refine ⟨(hClose (sampleDropConnContext "u") (by decide)).mpr ?_, (hRoute _ _ _).mpr (by decide),
    fun hSame => (hRoute _ _ _).mp hSame (by decide)⟩
  rintro ⟨arr, hArr, hMem⟩
  have hList : (sampleTwoClients.store.connections.lookup 1).map (·.uuids) = some ["r2"] := by decide
  rw [hArr, Option.map_some, Option.some.injEq] at hList
  rw [hList] at hMem
  exact absurd hMem (by decide)

end Gonggo
