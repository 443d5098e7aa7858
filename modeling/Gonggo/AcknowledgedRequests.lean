import Gonggo.StoreAgreement

/-! # Acknowledged requests

What the tables hold when `client_service_route` has acknowledged a proxy request. Two of its setters
replace what is there under the id, while `client_proxyname_table_set` keeps an entry with its flag.
-/

namespace Gonggo

/-- The message is a request that the route acknowledges and saves. -/
def AcknowledgedAs (ctx : RouteContext) (uri data : String) (rid : Rid) (proxyName : ProxyName)
    (serviceName : String) (payload : Option CJson) : Prop :=
  ctx.gonggoPath = some uri ∧ ∃ root timeout, ctx.json.parse data = some root ∧
    clientServiceRouteVerdict root = .proxyRequest rid proxyName serviceName payload timeout

theorem AcknowledgedAs.store_clientServiceRoute {ctx : RouteContext} {uri data : String} {rid : Rid}
    {proxyName : ProxyName} {serviceName : String} {payload : Option CJson}
    (h : AcknowledgedAs ctx uri data rid proxyName serviceName payload) (d : Dispatcher) (conn : Conn) :
    ∃ timeout, (clientServiceRoute ctx d uri data conn).store =
      d.store.saveRequest ctx.json.print conn rid proxyName serviceName payload timeout ctx.now := by
  obtain ⟨hPath, root, timeout, hParse, hVerdict⟩ := h
  exact ⟨timeout, by simp [clientServiceRoute, hPath, hParse, hVerdict]⟩

theorem exists_acknowledgedAs {ctx : RouteContext} {uri data : String} {rid : Rid}
    (h : clientServiceRoutedRid ctx uri data = some rid) :
    ∃ proxyName serviceName payload, AcknowledgedAs ctx uri data rid proxyName serviceName payload := by
  unfold clientServiceRoutedRid at h
  split at h
  · cases h
  · rename_i hUri
    split at h
    · rename_i routed proxyName serviceName payload timeout hVerdict
      cases h
      obtain ⟨root, hParse, hRoot⟩ := Option.map_eq_some_iff.mp hVerdict
      exact ⟨proxyName, serviceName, payload, not_not.mp hUri, root, timeout, hParse, hRoot⟩
    · cases h

/-- The next pass of the channel thread finds the request and hands this text over. -/
structure PendingWith (store : RequestStore) (proxyName : ProxyName) (rid : Rid) (text : String) :
    Prop where
  listed : EntryOf store.proxynames proxyName rid false
  stored : clientServiceTableDup store.services rid = some text
  snapshot : ∃ rids, clientProxynameTableRequestDup store.proxynames proxyName true = some rids ∧
    rid ∈ rids

theorem pendingWith_saveRequest_iff (store : RequestStore) (print : Printer) (conn : Conn) (rid : Rid)
    (proxyName : ProxyName) (serviceName : String) (payload : Option CJson) (timeout now : Time) :
    PendingWith (store.saveRequest print conn rid proxyName serviceName payload timeout now) proxyName
        rid (clientServiceTableServicePayloadCreate print serviceName payload) ↔
      ¬ EntryOf store.proxynames proxyName rid true := by
  constructor
  · intro hPending hSent
    have hKept := (entryOf_clientProxynameTableSet store.proxynames proxyName proxyName rid rid true).mpr
      (.inl hSent)
    exact absurd (hPending.listed.sent_unique hKept) (by decide)
  · intro hNot
    have hListed : EntryOf (clientProxynameTableSet store.proxynames proxyName rid) proxyName rid
        false := by
      rw [entryOf_clientProxynameTableSet]
      by_cases hUnder : ListedUnder store.proxynames proxyName rid
      · obtain ⟨sent, hSent⟩ := hUnder
        cases sent with
        | false => exact .inl hSent
        | true => exact absurd hSent hNot
      · exact .inr ⟨rfl, rfl, rfl, hUnder⟩
    exact {
      listed := hListed
      stored := HashTable.lookup_insert_self ..
      snapshot := mem_clientProxynameTableRequestDup.mpr hListed }

/-- Every request that is acknowledged is pending with its own payload. -/
def AcknowledgedPending (s : StoreRun) : Prop :=
  ∀ (ctx : RouteContext) (uri data : String) (conn : Conn) (rid : Rid) (proxyName : ProxyName)
    (serviceName : String) (payload : Option CJson),
    AcknowledgedAs ctx uri data rid proxyName serviceName payload →
    PendingWith (clientServiceRoute ctx s.dispatcher uri data conn).store proxyName rid
      (clientServiceTableServicePayloadCreate ctx.json.print serviceName payload)

/-- An acknowledged request is pending exactly if it was not handed over before under its id. -/
theorem acknowledged_pending_iff {ctx : RouteContext} {uri data : String} {rid : Rid}
    {proxyName : ProxyName} {serviceName : String} {payload : Option CJson}
    (hAcknowledged : AcknowledgedAs ctx uri data rid proxyName serviceName payload) (d : Dispatcher)
    (conn : Conn) :
    PendingWith (clientServiceRoute ctx d uri data conn).store proxyName rid
        (clientServiceTableServicePayloadCreate ctx.json.print serviceName payload) ↔
      ¬ EntryOf d.store.proxynames proxyName rid true := by
  obtain ⟨timeout, hStore⟩ := hAcknowledged.store_clientServiceRoute d conn
  rw [hStore]
  exact pendingWith_saveRequest_iff ..

theorem acknowledgedAs_sampleRequest : AcknowledgedAs
    (sampleRouteContext (sampleRequest "r1" "weather" "today") 100) "/gonggo"
    (printUnformatted (sampleRequest "r1" "weather" "today")) "r1" "weather" "today" none :=
  ⟨rfl, sampleRequest "r1" "weather" "today", 5, rfl, rfl⟩

theorem acknowledged_pending_iff_sampleRequest :
    PendingWith (clientServiceRoute (sampleRouteContext (sampleRequest "r1" "weather" "today") 100)
        Dispatcher.empty "/gonggo" (printUnformatted (sampleRequest "r1" "weather" "today")) 2).store
      "weather" "r1" (clientServiceTableServicePayloadCreate printUnformatted "today" none) :=
  (acknowledged_pending_iff acknowledgedAs_sampleRequest Dispatcher.empty 2).mpr (by decide)

/-- The channel thread has handed the sample request over. -/
def sampleHandedOver : StoreRun :=
  storeSystem.run ⟨Dispatcher.empty, [], []⟩
    [.route (sampleRouteContext (sampleRequest "r1" "weather" "today") 100) "/gonggo"
        (printUnformatted (sampleRequest "r1" "weather" "today")) 2,
      .requestSent "weather" "r1"]

/-- Submitting an id again, after its first request was handed over, is acknowledged and never
dispatched. -/
theorem not_acknowledgedPending : ¬ ∀ s, storeSystem.Reachable s → AcknowledgedPending s := by
  intro h
  have hReach : storeSystem.Reachable sampleHandedOver :=
    .run (.init rfl) _ ⟨trivial, trivial, trivial, trivial, trivial⟩
  have hPending := h sampleHandedOver hReach _ _ _ 2 _ _ _ _ acknowledgedAs_sampleRequest
  exact absurd hPending.listed (by decide)

end Gonggo
